import DroidAudit.Text.Charset.Grid

/-! The supplementary Japanese characters of JIS X 0212, in a square of 94 rows and 94 columns. -/
namespace DroidAudit.Text.Charset

def jis0212 : Grid :=
  .ofPacked 0x22 94 76 "
 !!%iJ9^Zvf~|z!+(ABOV1HFF^WdxTo+G8:W[rlQ&XM!I_~|DkU[;m%XW?f1bKjg%.`@kV8WCSfj|*Y7F^5CN=A2o88;MHi4e|v7
 NNiecCQzSHMH/>hCfS%Rx7d`x,2C`2t(0X(j&LALN4[43/$hdkH61F3^gE1N,ax-Kc.Zw[n;Bo%y0:]mJCe_w[bEgJ:MEf%ps<o
 7nKuUV5oD>cV59.xjSgPRvDJ[+Zk*:Ty?_I^z(Q!rE&</Wk2*GDXo8bBC/=QrP|e&C@5:-i9<29D6T?i/u`+lVj/X>I'4LsEfz
 B/I#!ZUf;&!8B?7dztmE8MwBfUX=LX>y9I0FXL'uO.E9o]UF@3mpKuyA?c):c-lB<[J%dOeok=G]AOLnE^#w(+5--hu5Y/6-?R`
 e*x3[H,lN@Z:'QkS?]*P:4QX]P(=|!_^Vbz9k,0u4eQYbKM8L$ob[_TzX0^)<AmGegt4mA0`!9B>|m_hU-2VYSFc8S>.1-~)c=G
 v>pW4~cg,47u+I_osH^i!@4DoZ]Crs&6T]7sU.7coP*rQW<nX&]CgVi9ntlIe;N6T<K5L3>D$2,KAre7=Fi|&I'UAKqt/Pj.uP
 6/L^n*bVk&Ak68O`a?m-gb^8UNvC[1IU%>2VABB%OEyB!Y@Kb6)7T_Sg~KXb)C[4dHcm6+nlt<vcwDh@1V68F]<oACgJ/N=1!mA
 _'R5Tx;vTJ(45%^'USaY]kt4cwM<=gvP*+N.]oQ^e(nC.X9Aj]aQdNf5.O'EU_JEZ6l.1geh'c2~uDi^otbt!>7T5'gy?e|M&n>
 Cm-~1]LtG@?@A->vQKTywf1+TICt*d7+w^8O8nP2CK8oEtJ68m='`SquJUHAq#x7&nK~fHsM<irE5_qznAn&XAZECOU6J^y1QzU
 :]/6JN)77|IWZI+2;sm2$Zz3-H&9sMrPQT6<:G~~B'Yh&]5(?'nYqD4E,Y-(jM$GQ^DczT8D.?U0?JL#J-'V_HUL8ffG%H7sn6/
 .Z%H@Ys'twp|30@Q('c=[o/Q*T@)~2A@zj3rn7pDL$[kz;me1r>ZisL(>B`1&495sm3/j3A=j?|k0$?XiG8FfDgT/S4ruNq>s*,
 PHJ*c5Y)QAoF1F(YZ2*KOC`X[AA&']M65M5_YU|M`b:gi88**+0.bg|M[bYr%yxW$o6WfFgGvOn@O/n7l^Xn.+QCO5M/T^[hH3T
 ha+F%]hYz1C;8#<;]r@1'!*6!<tKD<.sU.S?`2)UF<zA=U~Y8TzxeOuz~qoTzcEA3/bP#MpOF7iw[WY2m<TD:~-N9@vpc=q@%cj
 4Ajk2ERc)K_WKNw1#X-*4ttg+|fID^U[U1QPPvJwHMXE|=zrA>Fj(bgNF99N5k#O1&t$L6r02]Z'R$(*c,>]8qL$[bcUUdZXBnC
 !dFB%5t)NN=RY%H'nFgkd83-QKZA,qu/:&Ln!Ep5;hpd6pvs)$];@'uhMK>pdK@+6KN1`2T)7?D$BV7J*B4(7B4K([cgF,iPK(A
 s_GXN]c$Ia%m7~soN,js%mGx#!1C2eD6*`Ax%wsp(H+G,kF_Ae)D!'mXw#JNvvC%ct+*xr^e3)a-~QX/PXPW`bbAc~q9<#YmCbZ
 zv-@#,gHEyH73w-6QXX<F_k3H6sAN7_$/hBG^V_Z&OiAZL_)d+~Sd1LU*(SNrIiHA?mf[J%yKmeg?/=sj6i~KCyfWrgdrC6@%h6
 CQIL7uc-w,qw8GnfXM9[-hQ['b%|gqg_vsu1M1k3Q;`4RuRvcLH1t3;a$!jLci&;5+qP!O7-+,/'0gT5AF?$9d2=,0AAn%8(R/(
 '67hdKgLNMMUu,<bmZv2$8![,g/Gd:dQ-dO?6N3412V*((*^2f^m7+e,jEtvavfZmPKG&B&pj)U:V2k1$)pn>So!Wc7)UZwNIFU
 `Gu_iC<kA<#.[q:^rbET~v4GgH)?5_te0KiNDvK,T)IhwE?IB90jdFa$kth-SwI$7-N?X&O%Lh(S/yGgk2e:HdU2t3kiW]L=z%
 '#.4bFdv|XFdBVk+co=9ijZ`76s8rPt-Cky~yUF[Q>v3|J/*QzW#D~6-+gu++&`y[V:CG#_v.~W'G)'i%C#,QiO#w<Uj.dq9WD*
 ia$_A'kXwsfz=;epTUb]TG#R-4%5k55w#+4)_tLCRGWE=#yQdOp>NW?/]Q+liEG8X6VhUdsbL$WyWM8`CZYj8rR08(R`?geD|Xz
 (-O5nz<k<I5XsA<z/?ikaiSF^&H>zkRJO5#^Wn==@1'y/z4&4|3>CZrN>FYFlB>WG:D>BT3I'*?7X~y1/?B@.[g:h5o(:67iJ6R
 VGcen*b#^f9PWx]Rov:H@Wn2B?hD<aZ*kero2g9zgh86d6VK0dq+u7.R07tj6&&bw@.e=hZq+)f40t-W3=B1!0T[YoeN<~t=M)k
 P~8~dFV-=6u+'D~q=+@Uu4%ku$w-VD]wEKdn|t%^*8U0pK~5rjU?bUQJx/2y&Uf4|PE:wJsk8C-qy1FE_tH-_7Jgz*z7uTcL`TF
 Ajuw[4Mzvhc'*#v6&lAZ!V_YVFh!<#V+pc#FHC:pT4V;JRDejRR-s~j+e$Z,(Vy~?GH5/MqsJ+H</^K~l9g;pcTqoU^=:k6AeQE
 fy_@LjQZn!Kw5q$>*1#Y^Wo!*tyQg,tP*:Vr?;ftwKdq>QM|ZOiYH;<Nca|@1UXEk28LFz)uM6$CCO>StCnm1).B8`E2PmB(ZDP
 Sh$Rvr$DW2PCk1+cm?Uo6j@b/Yfz$#v1:w]&$-eLCKm&%7T=%~5/&gvP4^`9W[BMy.C|dr#NUk1VyeE*oA?Byk]WimE'312DUZ
 Y-jeZ]yV43.];~MM1]B)xQ>acGu_9F*a_Ac2i<j41(^wJHY(`UTx!Hg,tZesqyNaO!gF.YOm$'atubZSLgj,_K_~Z8>s%r|Eo(q
 _vYWSI`JAd8$1x0&dzN#xZwDuLZ6@0_OHC&2]4XG&NSzBiM;yge|(qY0wem0?oo9NF|$i*;/QBX:%cXL6b3s-b~~Y/e*K/<^/Tj
 P-!GL2Z!jLX$;SHEZfO_Z/Z>;fwhcA+m8M(LS/.#1reL%PU1R/.,B@>ZTwDD<B^.WXJ~l_d@NON&Rh9J8fYg=(:gKxkrC3#!2p<
 A_bG4Wu+XtmZZD|ty8AR>CYtzZyEtJh:-t9QLEN03nz%oYwqh68+2a=.ZgYs<CD%GDp[p%s`<rEpJ3DPiHV8tHk(elmf=7*TwFc
 )E]|3q55k97hFDm-7_^7w':WLUe&44@q~<CI'8AF+Cc)iT[%m?H`W/+ic/!Lru2y%=SP/`f?)(|me%HuU4f]RU'x6YNjI!V],wW
 6L$]fSG=cN3@>g7&tT68veSGAMr9ddi!GA-=C<VRa#MC1ZQ&X'd+C?0PKC-q&Oe2G9<qnVO]&0sl.2nNE+R+6U^jOi>;o:;&|W>
 hY(v@Qm*IHL58^(8Se9!Q-F]@)#WaU_$%`).:[cv]uSmp:qnNpWIQ0ahRtu*bJORl/d8`TVB*5o-YTQN#n+9/2KHncff`;.NBJP
 Kn5(Re+2>Qc)v-?($%pr&g`7MDZRfNh~_*M$rk|G^:e]qJ]?gdD$yV@IzvW1GSba4%w%Uvc~*Yw>6%YMXk$k/*Ek6^z&_zi,P:(
 E-C>nvf57qhmLmU'2WpiQ!|Qx7X7fwG<4!<I3(RD/('tfuKsvd*GK+1K+KUzXOmd>U'^c*k4uNk<B0pk<O>9z&*3ON]a~&,@o7.
 WVkYK@q)WfF(X2+@HW^AX>Mmv@tCVfHD6sDqw(>i=+mOKL6n$e!a9hm'>i@^x'*8:VadFFw+zBB4iG<DtLPaw5*:m5:u7MgsplH
 'F,t4j22.A#GE'*CO@A2^H(n&hh%(7A-nEHi;S<qW:lEUt[ZPyYqKAk9OAln8-gX=?'Jl:G6'M9d>S!_i7lE~-[4i)CY_$2x)Uy
 zb>yi=l-lCS*RSH3bZ%gS#G*Y_#'8b#;A]Yu!b->!K>xGuGA:OtjQ~bCL3UiR;w,'n%2bBiAo93ispT,2/,+O>|>~^-D#&JEA<b
 =2xlyRqLK@ZHsP30X.aYP-KcC+2t.]6/2G$7JF5WfgZ-FXIgB1DOX6|"

end DroidAudit.Text.Charset
