import DroidAudit.Text.Charset.Grid

/-! Characters of GBK. A row belongs to a first byte; its columns are the second bytes from 0x40 on,
without 0x7f. The rows from 0xa1 on end in the square of GB 2312, which starts at column 96. -/
namespace DroidAudit.Text.Charset

def squareSymbols : List String :=
  Packed.rows 94 9 "
 !!*:b+TFNtO5.]s5S4rr.7Noel%m1bC7UG,j$w_ytDc-qUlsqFm<)fT-r>k8*Yge1-#.%W:3W.c3Tk5x(bvzKNcez2HG4?J34_J
 al+Vh,ErJhWonco^b'O7PsKG^az*sQZ4XAcL<Xr#^&35aCqJ#EOJK:%CBn8@9tP$M~l`F8$'=Flrh*+9)q+8Rd9hL^%H9-)pr`A
 _i8uvCPj$fK8+3j7a-OQozv[Md%+lq:;Vi9bxG:Q'fcF?'N.JY`yQ&13_53mi7EsADhAyG%0e9ya~u6vPS<wim|+ZMp&SYFfScl
 5.xj!R'FoUGk_(LSVR(J[^%/&qLa7nN%9c:L=58=3]1+y+EunWOc'9RtIEJ%;H.cUqL`P)iDuI+WSD`i[FL9;YH0:*wX2s^w!Jv
 ?0($wVyUCQ4qJ7sRSrZqp$me!<0>_;SSARm4VN|>)Ei]XHsUB<xy]uU@XZm.xZ,~P<$u4`.YSU_z&uk4c.aksdi"

def squareIdeographs : List String :=
  Packed.rows 94 72 "
 !!*>dK&Vaf.yfac:XBJAT=mGx-i]p(<GvHErE%KowWdgU3Ri?v)UdL51Xb^=>mz2*cY>]aPr[ZPbVH.8P+v~CSCNG[8-wGR/@`|
 2l#B<%`~'2oPMXqk(czhq:MOJ(k(UXOG[CJURSw]G77GaCR^C_x8-o-a_GXI^m2'qJ0JsAidTXYcoQ//jO*HHeK6^d:bUu7RX&=
 Q9wu6=M*,3!w`VD0#+MN=B0#[&oa~VM8@`3#PHKf.el^g!~sB^`YM4/N=^u(`G;gBHS%F7Y|u&/-jZh2)rw/GYVrkuw|JeaBV<#
 UFDFz)!u&Aw[q|VsWn/cbQ'FcuTg`u|zr6olTD|;Q)|3jC%i_Oz6/lHzpb806+4R%Zcg4;z.tG*U:JhBS,i9^.w.FCIgyZVtkw*
 HPx]@VV?H$GpU$C;tF_PH;NDVDM.abRU;_%1BlwwzV!eW?(<dt74v!zqwbu<;If4f<G:n1RPEtgE]r`<9>,z+o^5^#o>C1-1AOl
 X?mupg9Tp8]mPC6w6/448cCL;BT4SwJ.7@bkJUUP<Iqln1~cLSa_($jkd8O#m%P=]%r>m.L<i|b[9s)|+bwp(S$@-L'_Y&T5~9K
 yZt=LuQN)1`v^Xpf(Tvj>'5x*+^lcTh:fkQ=72gto00M#6PeW!jQOT>E/=RQHlo/V@4TLS$rZ.R+2%3!%V3MB;Po68wmT<Xswnd
 OqB~Q|n?o)gQ!G_?LL3R|a!@c/#d&NCKF.Hw0Ii4:l9~PV[x`)uY?iAC5_9n(CO).t-GXc6QE^:bMBRY$;];Qdx9GZ^-(Tgk`I&
 IL?6fL:#Tm()C%eG@@dlL#bf#Vt^Tj9n.n.#I,x.7oS;94I?+Ej0,2g1vyhZApPtq*ju2i?6icbBj7Tlf1+%?Wl9AS[S=QE?6YZ
 C*f.Pt|Qh1y!ChA4^2||g4vLDeqHhJ5rH.$[3n=0~]r(6xK9+'Z73a]ce~'7_&r`S`Q.,BV$b3m<s)iW)7n>=jj=5g_KbGy2UkX
 x;Ib#MwLD,okqnm0')Kzp^SA*lT]&+pa?@,CF<9*|lvfec6GPAi5CTy./JdjP9&9.W;XO)GRrk`k6|pR@g@8x<UosXu3.akFD$*
 T<(&1O-?$OG&X@KQDK:A-R-Waa-8<AqXsEsV#8hYY0|'vL|N_<E>i?zz=HB6=e,iB#^b[JIp&~#mrFSE?n>H!iC4I=!e=N2X..*
 ')eV4UB/T5l>!!u3MN71;FxIOjr6zLM5r6FhXNrdU|@B[c2b(M^adHf3*hboLXkVj*Rha/8)U&^j=,s1n:)ZuFlhA])yY(%K_*,
 ?QAcmrg(#MJJ]8D^Z/2#WyE]/o?SQ!;mLDUvE2^D5bBN,]s>zrR=<Hm7|>NBvuKqUKHrYsIODhbjq5Mq%xAB8d)=q8(dzQd%m?j
 AR.iWq9]hw]i5nMZH1./P$O~~,uTIT[fy8kmh0:^pdaA|Qm_J+PFG(y*'U0w*snR0%I,<>m<)fXA(^0Ad`E?&`s|ol?8j(~Qs#_
 OEQe+-!4uW^I;'QnPImKuKg_PNp)FpbG~]Er)1~tiR6WcDp<6.og_(p(k2h'Vfisy;CKIU1PR5FjB//VmuqR&%m'[uN6N~NB<?u
 dNV<Z[66ubU4d.4jdZ0T7%$MdWH5!DmahS9My+I%=w34y)7h06r`pm_(QEW`S'n~])4.I)?E`?q;/a9~#im[6MXt]n<#:H/>`_,
 9tmA<')0L=n0k>x*a',jLMC#!a59S9ro|x8;k:K#C6d@V^'CH<r^J!B0i$^x=6v<Af(|+dI`1oV~E3&hA=cX)4S5<0qs1x205dd
 `=B2dusBEV|ELkR|.A=Zw1#.ELBw_>Kep5ywYk[,iPU>DRaA-2ZynL]zJ`(<sG%=>]ZOJ2`~(x#`/64;Ls*c~^ub$OHkFjv*u08
 =:5AdVSLsPu7';^#Hl3MF@xk/FT6u^`@g#)bLuSp~/8?/ur-ART*Z'_>lxNdw|eYMxbd/1J-i(P)CgRKA@S9(^_DhdtBxS$_rZ
 G/hZav8?>+BzL<Lcd0Q#n(rBx0_]=-ng7xu.kU|0]g2:#VJ-C*L^8?Xg$>aI`mx!FDUAJJWd.eV>Ir.iL3&n-.kb]F4|=v6=H5
 4@]-b)+nkH`-NeAtUmJrWbST~]',J]ywta`Y=xt(_eyY$^RSP0:vgq>LD0+knUHdx?)u$_&tHioX-4wfPNRg$zZnKurG'zl/^2:
 7Mxt[vIN2z_]er9Bm*3`yFaBk'&qx3ukn^1<;greuNA30g$svERb6J<9,bfyOcy(/ncS[G6%zg_jkLvM*I`I)kHj-rQE([pT!cr
 )h?5._^3BmI'sDddzJ)YpQP@[#QwF5X]-1K<h*WiZ=49pI;Dk:sJsIL#KSkjL|m!wTr)Og]:fYk~.8WiRN'HXb#.TM5,,;7MN2+
 ^p#LS>Mw(ewjitY>A+EA;#h4n-/W6SYpV)ZA)|gsD%KuIC*V]cn]uf&A!>=4#!;KrcPFcK:9ez7(z'U.r!'^eO%2L[4?LZ6Uz'|
 HrD;PTf3x@J&=)JFuEu~:*ur'=$oFF@3',G]Sl6zzRwfl#UO69URuSeg/mbz=W3[E`Yc&Wg?^m>WAJd0n.8xjDF!:U26[8|;:(z
 17V;p5/wh10%C7>Q?v'S:gm>fM[+DVZH3u(W4[4T]jpU[DyjPtUzQY1hYkMU=M?eB1cd5il%6s6V!F2SrK(-3At#:#~jL?gJPn%
 x@`0)qe`t%#^u5,g!,`T,rtLZ#,84g(IkU66$dSIvisN]~/Yu75X4H=!iJ=_[K;TCB>!'OaAxt9si`G+2!6]CwX?3pC77[wxO7b
 ve5O*vF)<s`HnI&MrSAz3f/Ujk7oTn5~[bxZ(DFN8/@?_,EQ;#IJsPa&:.c=as<S9DKK~vLfnwEwkZAAza#Zk~PcYjWoZecNi%K
 UHFdyN/_hYUoe[wcBL+|7Ms6Sh$:nA><0BA]bRxm!>0T7n4;0;^iHnEa1`3KuNTs!xx.y]8:Tac3TSl<5?b#29eKVt95^(L)LA
 ^/[fo[|WfPB&zHXh^*1D*2`[<tjW~!yT$2[b/$Y_+zKfrX'3/Mz?M4!w</5(t&r5U9F18P~a;gkBX@?^<*^>_2nP]j$FB#(,^;b
 &eM*7O+:D;*BJhABV+/rO[[8T^NzF&+O)ubBA7?)W3PC??WG[<`[o=B>^]5p~du_Pqm6>]7qqO4D>_M%Xlr]:n'#(>p~`?v&dk,
 sr5%Vu43<6a[%VPwW)Tf8(j4<%s6=t)nCP3w-rW=d>~FI*4z;7QQk[-xq/u0VYxs6:|3jPKAObIROSaB;jLqVvFHi`-cY7HyGkT
 X-G#:<+V3_sS]@+YD0k,D6gx;)Tf?>T/??ylx3ZZ'1R.9U0M!1xQ5mIZ'W=']ECb5aaS6uVITznBVD#yjiq/fRZG@-5tPWKD>zG
 !>Y/xRFW:OS$F#@ri7Dr@lv#q_Pc_NW:i$9a?E<gN/A/8B6nIuQ*Y#B*%=ZR9Cj$(<8[`HBaC65Z74uD/1a$MAip/2b'g'RDfW!
 gd6P`37cP$d!YMs)qhMdM*pld|AF/s=gG*^nv%`#5+KGqQu:a'JpSF9w^mhT$YJVvqNUYKOU[rqS([nYKjp:<0P+Ii-zwZG,@zv
 ,Mmf&rU+UU(qA.1ypqSAiex+-Z^oy8`t<x$5nZ|/X>'%4C4)uJ-dL0d!PQxH;5?k8W@zb=vGdWgCPnVPc|G`5C9h='xV4K|H7/M
 v;:Hq0zq`tHX046>2K~,0FzLP6xQ$Z2F@!O)]#V8H,>|msza&m.-jBg]|U|6]zd/ey|QJcxu?s5By'fZ0YSp*FqT,oDz58pXcB1
 h6YX#qWyNyW8TOMvz^?o:+b~P0XI-[r]hzAiSJHe]fY#~~8uuy=<@'frE$GdXaS0!La=2Dbf()w8p8/TA>g^Ix!$?BFrxxCj]8;
 %)e]j;Bz|&dgiHG5jnUc)z&(>fzS%]An9Ry'sqx.=,TBoNvB]bUJGQdsE_R_9ngz>4Id7=IovX#UokB:f6)xui8G]-hEMbxX^wC
 zGP<v2Fx~C/<Cnje5S)$71C^(G6Li*Bef`74&:]u7ObMrU5`7.%xQj>;*xE'CThR:yq!#DJ6[XZN|Z.X<BC1Mt-0(YjU:7.hD7%
 S%M/'vTuHTTjxu!T!u?KD3sp~*k(CLwgDJEGPX::%KJJda~!fEv(Sc0+9sVRU`,[pVuc$EAkU&:Y0)1y0P&]xc#7Q'/bbR;CM8(
 ;jw;zB!/K#Z3o'!+nDyTxLQ]PjUnNKu_B~;8?r6pn>VSz;DJd_Uz%2qUYSr]dUVC7'<IxL>12F]*?g&H;7pKjk1ALA?&Fs,O3[)
 y%@hUi<W$*:S1adG>|P__lG|Fk?RqoF4,_R9U?O&dzSuDgv)_h!e98XAE9Np!,^9k%iLa[.Ziebq'Dw_!Fuu3LyL-/Ffz;!T/pL
 [pVSOsBB!0eBl$E>%Vz)$Pvtnib>lz>v&q``es]4p;KvuLT^Z'9ub9bb3O/byM<o]2K(`U~LNPBD-k&7(r2)6-A@Ql.xAgJ[)mv
 1Kr)0)Fj`xkaM!d5ht;?'@x[%T,dj#WgD5I@_gIK/tXBk1e:CKhJ3S]_NWF)wsKZ5<9oeg,(q%bmPX~@*E#zj,?4WE,_27NH/~Q
 a@*HQNYBZQ+$vRI1V3G8XGmz9[Q'.k/Q2MQspKjR|%b,~F|<gL%+G3sb&2]L,Lw,Ms_qjN:u%S45p5l03MfAyoPHH<1Y8f;L~9L
 !rCQ)n*Jjh2ATvk81&R5dfm)w&9z]!>=7(E.JiQ?$frv4Ruc?_Kk6GA1&=GFsN#uvWhS56UW^63_uGeOVCk?shHKn!jGTVN6@v-
 70>J(bq<]nh`WFI2ySD%>'a(r7h4Pt/>%JvFi`:<Jfr/y:1FnV(hYv><C8=Mbv+5)80-MwHV3B06;9<s1E#GrUd*4:-s8a|W%|N
 IZuO`;]3>[&S1@Y22<-jZZ|u[2(zaqQh[A31@0&8l0-m&aQPdz/VH*Z-.@MQbANoJI'EfU%Gf:bo5Bw0ld)'Fx]>SKfI^4~'+j
 D/ekC_$h(ABzNbJyNhXiy082]<+yE:O>i?8;A`%7Y8iuryN4m1Y<[t%%t6Al8g:rrpLYtE2*8PRh`[FMlZ_-q4t,uRg2Mi;X%CE
 >$xe[jp+U>2gMS)<_(4,Fl$_y8OqN3N&+5x`RI='EV]2iqsk1*+OUCCM5X&(1mLx+JqtO-X;'U@G#H(`Lp[s[FhX3n<:uCYg+zu
 VY[/:s~2Wg%j6HX#)FQUK!cq=jgQ6B/)Q9QytM<P^,)@y!m_U7]Fx/2!DG=>5mL-$R|_In~h3D3y.jNW#!IhHc&+/1.+e+[YUx=
 fgI_p_;eJ;ntv~fuXS-os8)nh7lOjCA~4/8Jtk$q;*]CBJvaIHJJ<2R|ICGWtEb;N&Y58Uj.un/^vWw`>y+Fr1<Wi?Ti%Fd:YuN
 j|f!6f^~_6Ldgii7+#*aTR?00<alIwU-NYDevU4]Ewl|%C6q;+nr@@z%#,>:>TW&!3?~;U0jVH,^+GsG(wP<ud2='C/I9bmMvZ]
 &HS[qZ=O;S2o*LMKLVUio2pkIilb7pw-K-Ko1C'|_24^F*XwgzI7mwfZ8b:F^2Dde![xK!OY;RJ.0k<7>-DhmM:PFsfHFOCG@2z
 M/bQh|N=/aDBhuU*Pe(g*S,')imj8+j1SK-JCkyy7$%6;n2Lw?kAl8XG6U*la7_yBx?BYC7K9EwQiWc91SEY:`v;WC7jzxhD#<2
 .MW/1]/6oB>K=u*i-kr@0p<<7+iKvj95EerN#.SZfzG-($/J5xPN1gZ2qoAq-m.T]Z77daB-68+Sni5e59,K6T_~1m3nB>7mj2r
 X0eph5VT=h:S)oJA;awr9t_|2d?12:H&JVXj2<tS#2Q=v,09|_qB2'~1<E1q&;%K1RX_Sb8UO<n]bd#,0Xz9_s5t;t=fE6V7/7I
 w:mA2zmV=AzG#VsGZAX-55aw0,1@38N^jltWbDXV?7sYePU|+|LQ+``HqsJC?@.H$gsQVC>LW?H4fN:Cf&nv|SGNMK^/+JKHi,X
 LpaEqiz:0k[nl0>uu5,ANm7D(~//Qe0fL@&GZE.r97Q-B)dlFKTbc(Gs'5N@v:;d'IG_>s]W!,4ud7GAcUeN(R]m99L+]vgqG]J
 8:6e4VkM2p5]fQKK9Af8m4[lb7[6jb[lb/RVh7bej50Q#.4tq%iEOKwQ#c1v+W&KPu~wi:PT-<37>T.Nd<9Tpl`g:wQZqCiQ5#6
 hnSP*82@w.v9#o%c<H(@(MBFSM34kZ>V+E^rb|/&B;d/YBadfY%~.Ml],=m]5'dZPRw$G<4|G(M5-xiQU8cr6H7Hq~itO8M`yW~
 |2+FgySu'6.[A-&[4ulw[?X[7M@m9=I4jo+Ql<G`dY&Om|6kl'abiP0A?'6uGklv9Aw`7X1oaAtU;fzEn_Bmu<Wh:Q`Lv3;VWd(
 4w~Em$db;<M~k$tUx`gxV(Ist]^86-<W`lv)1ov-YjZ-4'c4MDZ<e35nQ;;]5T'2_~vvAn4p9E]oe,OdU6CFIh&3I.|6>`HmoOW
 ^>YtEZtKt?es(v;WZnpQ/n7Hs2xqN-+7:sZ?AIb7x_QvZ/|@7k$@k8XXq'*=+!M*SS+Rv#ho#WCoMJy%e[EV?WIkPP1SX/=y^~
 </V^nQaL,A65;rn)DXUh$_Q)^D@JX)y=URMtfvItU~IuV$)jjGN0&/~&-NgN_P&r~hI7Y^()Gce#bu!P^_.@k.9`spF<,jq]~by
 ]?n+G|)>0%Qn,Gk[pz:4!^Wa<xcCma+>IJz>e,H7qs:+#R^Uki3?^se:.quVZ1+MLML?3||Vp4lZTE0a+r8r!q$jZ8<BQn2P*hB
 L8&x;CgVl9@VRXbuui-lv<h$a9uCly|,p!x(YRc;!>Ga>emk^>q:OttjX.)U!]eNW|Jk7'x+QOR;NU-gr]>WwQOCeCt3@R:o&v`
 k[K!5RwT+g~2K.xdp%Ml:GE1&O!(erqg=1!T/A*Z$(gDLb0I8AvmV'9U^!yDdA&jWZ[K-FKx,FRGM!`aJUW<FpK][g~j~2^p_y7
 FyFN8%B8`oxF73t^i_u<<_p?p/&vq%d7PlXitd'GHZjpVsjC7&ps!nJ'IHQ3VD]RR;0;$U+~[Jfq$6Y3cg_1[q)aBPj*!w6=X`K
 Svx%5YjE]q%Lhpbsd5b*s^eQ$LvJp|2;&cvV^^(5hwGya$&m`TLerS58_H+XIjc*|+Xz1<N#CAiAFzl$Ze-5,X,9M/PB]q]09^7
 h6B6,6>Kx5z%MZP]gd*j!eGrAJ)VnhjiL2ar(Q&Z%qvdb?-#6qevd1?B@,2^rhifolOS`c[<OMV;KDfL8%7#?)q=l<:o9kr$vt?
 6`EadHRO~k>t?(yZ(kDwT[f%|X%ymYxPdpZl>?upqQ9Hhxvi)xtvjDU9~cC*uYxNe.pvMz7oKa;u2V40KIm)&h.GdymRfUL,<-[
 WqX1taUMD2'#,y/St)86pnE%x9h*g@WE&/xiLId`_5PZJC?Az^HFzO55C+QpLkvi90uu'S5D^HQSfBk6^V:3]_(KciJL1SkOR@w
 V0cszRAux0M7gnJjsc`ht8[D~Fs_ZPIxSld?pt*7&ro8wH[3%HP&I;HD3$dB-x<7Bn8ZJ+]~~*l(@VQnUGm~qg$wx3.M=xWG9dg
 qzu(ou4eG$Jz~.;o_KXpB'*zfTnjS>]^7hU;22Ai#TwDkH~MD!Z?JS`I+<lt!0D8PC~dXxZ2b#K#sQ'*em@6Ws*!N2=@+#WGeNL
 +lV^_N*<|vFDta$2<,ZdPAi&-c*N64h[lA2q<X~8Lz#dZ!m,)h4D%?2k:d%]x(.zPL:.4=[aVI+cY!LUE1kQv0tHD`+R/.-Uv;3
 Ue-hWSYqHIX,ZdG7NSsJ0N2z<'|wb`h6aLj(k'|r^m?m;v+9]_Qi_LKdX+lCIXuBQF`+gK90d:a/'/6$*7xTfRd5Z3kWELb[gpp
 oR!ig_?tC>$2Q*HXg=E`ZX=rh)Hj&2`z#1fy<4(&o|uAU/RHkcW|0pqStqIZ?I,$By2HDWcY<RN+$cGo6rnJ!ctPOtyB]-~)^|&
 uHeQ;W3s?$X;R1'n~<QTksp5!z3)pt=VEaGyLHR]GIp.7*?i31=.(=0$tl.c^s!'%YM@P'8d(l_1va3eytxJb_>HbPmi/oFLapr
 C6p!#ydnR@5(7?=&$^jSjkPWpud18JPZ*?Au--$D`vM@pBX|ovTmW>AgImM:Z'(:n^*KVyj`u_f%3(5A+o_JCl^<4J8r)8l'z^e
 |V^MLfv:PIN(GEYBFgUXlngB;@tpR-kfu.]M9R:+DU:Z_!26j&cPs00&=z7/Qy^cL8CMTq%?Hvx^d(:-I]FZj(.umY|24d4^MH2
 =gw1(wGoeSc>?BuOc<va7$r6+!5=w^M$r&!S=nF9+<mG$oI!sP(9$(WxgVG5u.g[r,;-xqOYVHaY)_H*nAc7~2XCLT<=W2H13HU
 ^]`=`U2a:#!!qW@Wzw9=LR8r^eCxOYQZxVy;/>[sWz5qHbR10_d-,!otoF+>|g^`vL<B^k`4nRbVRjyoG5z=Y3>6D%8x|'pAA&<
 Xogs$y4H8)cCCRsu(Z/7%d?T-o-_s#0k9wnZS:m!i07Ao?d!0?i6aPh2a+B^JqQkv#je+(?6>gRkZMb&`b2]H*63pyoIG,XB5'S
 j7d%%#R=FcW|N3D)v9s5220Fym`Sa&HWq;JM]F28|.bA'ur#+Q0qd_L-~?4,*$|R%|t`c$m!>u]+?Ni@arK=e.I[)iX7h)s8(a6
 Bd[K%]?'Y5*=p;xTNI]_r5'Wdr4!a<aYZ2+UUMq(YHW9>I-n$~bugC*mf$|FUshT)[gv`Nlr*FqFm6wIDrQt_9<s1+_E(qU9_]Y
 2+''hyb?dO$]+Qux6Y3nYRhHxs?;W6:dNlUUdu@oqncf]q;1;#h,'t/1zrQ2g_JjCHT.zqWB<i.v~!zeA8r)`jW[<4F3NG7*=#,
 ki-k5)IAds3&0aY,s,aKY.w%#H@v(kW>gMB-mHj3>`[gti|$OmSE&B_[>+s#Jf:i,lJ<iHh/32^?/+49ET(wbUQ:j=Xh:i3HjVR
 M6#iqpcjnq/`FPjWujIsc$8Ps=S?L&N5`!/2+y[!f6fl1/mVv4+UZ4F|#h*A79=a&HMx9noT[4n/!]XVfErgNdf=n3B;Y-m;-SJ
 IRLZca|d^V[7o%uj3T,<#BJfb`)|~aHynMN@'tve$(duhV$i`4V_]]_O)95?ppU`V#N0$CJ(N=oh6mdDBy@s=L*E%]Y4>'$MT+E
 !ao$c24Qhj,+Nj09k~z>'KYB;7x(N50uVzMhgU!OU)tWEw#~C)3akTcQ`[_J-oJXdzz3T)9,)W#2Drf4d@+C#hFsSdX<Yqc9_Y+
 :vpfC/%IK39@@`=^:aNk|drXCgDt7Q&Vs$&_=n[gB,u/SY-GW))%gRGFkKCJMlFw2wD,=@L5BqAH0pz`*2-b78T5_28*9;?#xvF
 j+Di6=,D5n#<W(_TUkXYJfz:f4zOtKTwK?z(Pi=5tgvH8CC8,T^R&eRWBhSS4*NR_155|#=,u:*A/cDt5A_E,'e+S#T945lg!jy
 Xpzw1JB51Y/Py[3Cd+Qiy#`XLxsq?N(Qzz0]eu$.ld4?Q!6yYaBE9|67AmIgqmd^xh8a>^##^89H2KmkqT/mbX[i^_32V~WAy:[
 %tbh&kC08WS'VaC4rKmVWP@)hS-7'92jg$C(XgNIzOs3k>nwj2DJh3#%d;5=|?|F'Q|DR03|zblkz$LkXNEnNSXLRG*Hl>1#50h
 8%@5<a)i10:g?>QLq~b)#9+%@;2-K7(:jZiIj*Q.K6?`_S03%uqXPfV25O#C:3=AA<-=lHVq;ADR#8SfkfO&)zVmxL:LQTWqjMB
 2G!TtIuh)6QgU+JCFP6_a=L4Nf7naD4<6MUv*)0%v+f;)w7^@'nUkoB9!zR?Zp6DUf.zP&,c9zw24+?J-8z*ft<Q#IizfnmcT-_
 J;LN2-f/`IqJC)NhDLL[$,cv<nB#3y;~,?VSzT)KC3%z?DE'3Ix%LAETB.euqHYULlR*^lxiEUOsz6y3M'SsAD_a+FZ5@z,!=<-
 N/h@uy=hRSl|IM#zq-oRLaC6h.f4iH#vHA)&84OZd5ga9mB]SB6Oz7#)C!)D~<TF)_q?QlZyQv[5<89u`*JPvMJ]eEKpCI!Q@Q2
 NB/#@_sphA:`bsOcp`7`rPh&v$8YTo]jxTRJgU-%~+5&R;Ir0!b4:i>~w<HjP$`D4Zxmcffrg<moN^-MVm8$%GbApwCl.223<OR
 KL#0shWT,&kr@;rm7~`ea!@PVN%:|AU+r|*fPGjE#D.VSEuO?-f2kKMSb38T(<:iL9(nuH?0U=HZW.8WF#m5S6^]F85-Tw)YgjW
 Om-PJQT20n:V(<%[_EKp&j_|q]j;d`4[X95P05(CM&u:L[8aze$(F83,d)Xs~J>+;[HnU:ihP9DG9/:Nfrz)b+;QCXPAvBp9/pb
 Qvcn'!;NJ=99ezIH2)aEWZi4ZRhvX>gg85:5esjYna8ofKS2Xv6<]kV.E$]|vHech`hZi2mMpYot&/7__-o+/6OdMZd.poqPjO<
 `IMocPCJ_eI~qFG#5W[T>Tbnx0=IPiMLZDMSMJG!C7A#V-rQO7;QN?:ze@Z)@vaaHI4``1U*Y&6r3m8Sjr/DISk2ngKef=nps
 A@-CaJyIm6v%QebCPYq-'zMGb]')@L[.7MF@zw1OjCmLKTuQ^.[^Q8I26Vc!KuG^UKwh^2?QhKGx&Es3ti+;*&=h$o6&a$Z~`_:
 ,<5gF*`Um8wgIa~!('dK,<r4n]hV*`?Id0#cHN+Qdq$.]Ucd8$I:%Arm[E^L#en)0Mb,yV*@|z0qn=*1A3dI!En6d<Him$FZd6_
 ~.;i>MF*uXskbWT@A$U]I%FJ-<yv?1;.lzn0_opC@dKgTc;mPD*N7N$^W%EK9&-ymmU)?mi]o<s+_'HSUdf%7iq'XW5a+um%bBR
 [5z*7s|66k@S.>r/:NI.5D&7PerDB2EZ,hEViR9XV]CE4;c]U.%87PR[O:K^jzlZ>DQVhG4r2g2Mwna;NVLu^/v1m]P0RPV[4t0
 yr.8w%LXx.HHG?gCFo'.CVt92<Ac9f^rKBtV#>%F5DHZh3Lz)kBgFYd<1X!XH3a+Q|BBnQ*&`;9$T6qOygxJ)ca7'>`l&,r.A)F
 X'@9tE/Q!a:CO:#CArcCo;cYAn:zh4*hCff)n;=_$vb_^GRB3T#b*1Gldhrs)Qry8JakfUTv6J$R'2P&IwHJ-G%_=paZALyh0ql
 GwK0gs[a1^b.dQrNF&c9)Tz>=e:ohOrU@w$D!Y+HS%TA,(/k7&RXkFaFfGGDpT(juJGJ%|&$DetL!%u|zMR)(lu#DxO/`98eOFc
 RLs~~]ShgI'|POf5Z-u2Y;cvU'LWk~a&hU^'^D7S^(n(Z,$D[@wRey)#rW*UO$.rDaL)k:EktIy)#_YI62#^'KPThvwzZnDrr>i
 0$GKN,(kG!Z^s3qfM<3gpLOsHwWhX|M?TOlsDAh:_j8;:4$jNt0L&HBH[2N,s4gUoq.%45kwM40Vwj#+H7U5?]vioJZ?vsP6:<4
 VpW+GZ[%|FGP%;]$0ONJdCQ0=:XtcuXuZQMsGYUJ(iLA1%,uExVrAU*+h4`:BB[y;~|;4UR9E?@W(6QGavp6Fd~ODV>5w>k|6NX
 =0U?Q/iZdiG+oZ_,(%n<):uzQ1(oxd1:N|e]IwsjL1M.v=H_:x6'0)c*ML)pT2Z_OQcdt4/-E2HuLMk|3RA~D7,!GEgKX-E6m7
 ?#<Tu's)8p~J5*x9FP4qxzWUoLcbs4FVXkhJ?>PEV'X5g58Pcc|)I:(vd(?W<Kn14wIPq#,Wa[_C5#LiI&3V8&.5J_#*3qZD1=s
 7/&L*5eTb&s/s$SakdxEk)ZKNia(t@r9GseR/j.DJT$4[`3-BW!duy7%||x[11c+l:YksH<J8[W*ssMibQawkaW=~gE8EU4#>Io
 OOz<@%:l!*R2bH9/l_&+vSmcm@bm_fTx~9%b97n@<,XQ2g@Y8,^Gwre`-![N*kFo>a.86qU[oL6)7VC>[)8ec|w`-WuZ5m>]wI~
 =V?qwI>SYdmLcC[SqKf,`>,#3HRzVg0OF7idvK*|-,o@G].Vd<76?zEkTGpau9y)vL,c][)h?0$Xm^]mfo~mF>:5QHHa+pG@*zY
 !4[D2ScH:N%WW=,6F0G!Y?'BjsR]o`5Rsu>3)4GL.#<^tSyPEjGRG~19[K<0UbAza.:GHc2ZD$6zq6S;V`)Ye,TNh6ZKCGA,+|'
 Q=r6;a204f,%![+TJ(:JB0/=)lDispXoCg1P1Z8zkjeQ'H*b.&E;Vxibo%Jg/z=ze=B(VS.j|)epf97~E@[u1gJQx,K(S#s27Q^
 sOx]$udW[b`)8*+nP<FoVpY(GhkVI1m1Sp@CjB_-GL_wzHn/(~)HxQCc97wBnoas|kC`Lym2=Pj%L#Ee%S>1nndGxv!a_I`Z.Tj
 iH_LuJf@XB8|LB4?P3$Q_aP0`#$EI4H!V>#ku=6eQ*f_CT=y$i;;Kkg)Ms:0t#V5Kmv=Pz2#:A#`mCm,bw(%94lG-!QEEj/G1!O
 c|Q?ps)5u&3/9cCsDn[=ifrW,_J.M(Sj~xbNcVLMf[dTTz6JuMnKUqgE~eE%ZI#-oTYX1Uvj=n,*~n*ufc/_YcI0_b)SuM+?$yT
 $I7-3O0P7>&+]cY5%O_iwEa9?<J>Q0>2os=khmrE9$aH'Ta4t@`88'*x9(e@)X6g#*Q'.-F=[,f8>ua]aSAZxL>^`un1'&A6rf
 p#IH#xDUR!$;;<z^w[:PTWY;WO(a,t^w@8)9RTVQmb?C-sp#>^$1!wSgB'3KCu.V;d3]Tvib_I=Pl?9BVq9Q9C=aVDP[m|I;$NJ
 d/l[s9TXS!>ZaZSpZT~3Jj6v8x<)lUYytt?V5`Nf^i"

/-- The columns in front of the square, from row 0xa8 on. -/
def symbolsBeforeSquare : List String :=
  Packed.rows 96 2 "
 !!*:8lDG~CI/X!q@g--im3l&1IsEwdZM!0:~1|)s_h)t]rx|&MWzl0o7L5fHp0L*/=klA-jl;)N+DjOJU.y|W%@d7yNNmW[O]uS
 $~E)=_7$!~WxgbHSQ4sH,jw1PGD6k/Hz'RT!^Ey.89$sWbcK82$FCXGxnPt=IlW2-B29Y3)iPQD?#P>BWr:,U%-E/]"

def untaken (first count : Nat) (taken : List Char) : List Char :=
  let marks := taken.foldl
    (fun marks c => if first ≤ c.toNat then marks.setIfInBounds (c.toNat - first) true else marks)
    (Array.replicate count false)
  (List.range count).filterMap fun i =>
    if marks.getD i true || !decide (first + i).isValidChar then none
    else some (Char.ofNat (first + i))

def otherIdeographs : List Char := untaken 0x4e00 20902 (squareIdeographs.flatMap String.toList)

def compatibilityIdeographs : String := "郎凉秊裏隣兀嗀﨎﨏﨑﨓﨔礼﨟蘒﨡﨣﨤﨧﨨﨩"

def gbk : Grid where
  first := 0x81
  rows :=
    Packed.inRows 190 32 otherIdeographs ++
      List.zipWith (· ++ ·)
        (List.replicate 7 ("".pushn '.' 96) ++ symbolsBeforeSquare ++
          Packed.inRows 96 85 (otherIdeographs.drop (190 * 32) ++ compatibilityIdeographs.toList))
        (squareSymbols ++ List.replicate 6 "" ++ squareIdeographs ++ List.replicate 7 "")

def gb18030Added : List Run :=
  Run.ofNumbers <| Packed.numbers "
 !!%s7*0gs9$0B%V$G2*C42/x3gsPn@o2v`m=IoTKz[d@Uyg&9c;UQ%3rmd|RA-y&%T4VR,E%eH,~DX9P1]I&]J28y6Eg+=7w05<
 ssi@Q%I][$Qg*SzQtxoi]?7(++K7[hJov1M@z!r20<igNg[TH:e,)6!;mN+mg^$EblM3?d68|]=g?.Y8]NGO=7LfyO$e5$2(fk`
 rRRj-UG95cv8:Tqs8l~uY6y,;zk*Xm]ures+BpE62ynb&GadA9k?7P<lI+!f+(FSY#=IX~DV/q*@c<XekB>GH&Y/N4_kF*-c_mt
 b(SRBd9!s2aDj%P5sh(YBS.eQ%UkG1d4[jM/L;nWbb/H`=%/Q1$;5!U[*XWPA,l/;*xxTrp(sBbA/6M/Y#/5Q]ekjG!r4'P1eU@
 +#VGE&Z_m(TJl];tFfV|6s8QC!>Xi,:kz(Kz%K-r#SY~/MCcLf3p#M&!VFflv:+L$+F,hcFWA,5Y-]#f^yEx`tcGX15MIkVL+DI
 )O,&]ljznQin8.7np[&#Rfhk`@K_sFj<@cc$bh/)$=neit6793;a[gA3I`.RN?q?n1Kq#c_?],,RBH6OOq+7D@',W^hJV"

def Run.chars (r : Run) : List Char := (List.range r.count).map fun i => Char.ofNat (r.char + i)

/-- The characters of the basic plane that take four bytes: those that have no shorter form. -/
def gb18030Long : Array Char :=
  (untaken 0x80 0xff80 (gbk.rows.flatMap String.toList ++ gb18030Added.flatMap Run.chars)).toArray

def gb2312Lacks : List (Nat × Nat) :=
  [(0xa2a1, 0xa2aa), (0xa6e0, 0xa6eb), (0xa6ee, 0xa6f2), (0xa6f4, 0xa6f5), (0xa8bb, 0xa8bb),
   (0xa8bd, 0xa8be), (0xa8c0, 0xa8c0)]

end DroidAudit.Text.Charset
