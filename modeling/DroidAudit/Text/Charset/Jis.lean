import DroidAudit.Text.Charset.Grid

/-! Characters of the Japanese standards, in squares of 94 rows and 94 columns. -/
namespace DroidAudit.Text.Charset

def jisPlane1 : Grid :=
  .ofPacked 0x21 94 94 "
 !!Dls5I!y=!xwnlM;uRrh<j2D!6gRPK+RrI^HhvqUA;o.Xs8L?kis&@3Abv;P<eT5tU5z~xdD~wo+ue>Zjm*$<Ob$.Dd/!3~E]x
 ~To(b?,c.bCsaWRI<J:&F'_cG[p^Hv4o(z$9mV;9fB%fw@=<Uq.XlM6X|=yhC5'B5Qd&VG[2*Uf;B/k*:=|r4YkQLM><5h0lzO]
 Ebt/S$IBb&|s1:4kv$]u6UQ>:&ucQy~daK'CXUj!%19>Pn`@w`]?./Sn/JKtUMN%Cogk3GRYZ~J>4Bz5kGjJbr(,s'R^1pj;h:i
 E7jhq5&]Z);Sk0t(24.Skyw|5Iu37tpHYxO*fC|[?Xa3xN4c-330rCyhr7@Pax;76g@/ehQd2z0m-R.V~5+4LBwg]:C?&ypPUze
 5R$>)j!R>b@N6',eMJywK7!1V2Mc?ChGd^pg|g!/;YY7NFmzR%i+'OE57T&U%+Y/0t6NP=,m_hnd#%.!XEHKN~l3(W+ey7I[HtP
 CGHHP#l=sD)Kv9g~xUFU%Zr6Ag.x&4S=z]y&PIhDwOViLy)0^HBX0hgAL/qJrzO4'F=:GhFX+i4r&[<=yDw<dRPC+tI,|A]>Cap
 4^&+2ijL9u_V:DRACLjB#B:Jf_E5?MjS-i6h;dU~Uvi:E-SPt(6t0w5vGG|*H|-1fP|.S/<tszwVWv3FwZ3$P`#j`F3/eX0o^Ij
 40XAq~]8Q[,ArurdNzq$Vdj4H?,er>#4pr25N,ln*g*/+Cn7=aF`*^.>q7U=<pSXjJjhcW*vq+E()ePHS)vU/glmY79b4x=b)v5
 !D>i'i2,!MWwp?8E8]Wq<kF$(ASG+HeQe]ezw4d`11XK<5J@;^zf>).9!#y'owG*OIU`-h%&KUBoq0<USx+%75S%=sEqovhIqx3
 AF9YsuWoJn)]'S(<c2(v'n@n('hd003j^My,o6]STgNGVwL57t^covSfpMmhTHc;b)1T9c,&5U|C-0OLX:ns;&@,iH+5~~)Q.F;
 tw!sAOxA/2n;[Mhpe!*_h2vXW@1[?1$aQ_)4R*H'%r+j&g(h6J<]_WhSbd(!'m'Ugj:#0Pye3d._,Q+:$K?eT_PaL-(6W#q?l<$
 :q8F17L=]5;6A!]^?:ld|GqGIC;Zpwd)Nok.@~11&Ge8u*whC6&-lj62G_!vsQM]5TdbY[q$/HNX]?/'h[nSUsF^V1-8hfmW!%P
 Yf~t|7?Ju5^||'e0BJzT!s/FJd'5>aCWt.T(Q-7~2srPar&#,EAA)Td:~ko7&2c61u<X_vAQ_OeyXC!68+'.en4b(_WgGBA[$SY
 d1uCpfj#cr4wq?zLLg9tLkI->XDcT]Wys-1*RWy|IlSdasSL:Q2C~y:~@b:G~Vh_3G.*G+=v-k@:~zVb.QxGle9zwPa8CKd9qoO
 aZj,_yv)Ky|8>]4:W9@#f(/=O+Jg#eKEG>_Tt9kj]`!+UK.V!h0vpb.u$Abe#n^$43=4O?MNCo/_LgA%fi:O_pOEW=;mi&oGhtJ
 Bi'Gk,J=sd6|Y#RoziClp2DrO&NCFJn4T%m_;rFpiY;d&cZn*x+Mr6g=*u:O#H(h96t=lH/U.:gj>VuBNn%(%&gh$ATiE[Pw$9L
 ut,queUa>`ebbBYX&|_?c<UWypP4|9ZXh+p]05qSyEJP+H+99xA^O00qvh|_WpG[[Ri@<W`voe2OsJ%MEp>db/F]7Ks[Q>Eg(??
 U;4l^D7@Ge7w4QY9IO^oETh*s2e0mvJ~r8z&uA*#Q.$9jBi$>a1a?=?K0d2UbuHQ<q<_)?-k;D:n`c)GOHC3l6Kkcsyvtyh5$I?
 rbO]!l>(y4]B<%w[#(muPm2hgS&>9G_xY'yVzkkTMKZ/;,)rEA#DoP?5I.#b;2OcHc_ZD~io2s]>FP[eg$s:4)%J_h^t]jS,Nk7
 6S;ux8MmHTRuFQrgaX'jS8|*[OtNB-Y<ek:#Uk-,/9nQ?,nhC'yUiH:_sOTKZ.oss0G9u/PB<,y7-k|I[Xe.LNdE8_^/_!p<(+n
 !opY`=zz,)t-FW_1WD]W(xTwk5(o;uI-zx,+F5;C9ejFh-'mne(iW=uH4RMsa0VC<pSbNBM$Xk=x0lW#2ra<uQu&mu2?W6L;eW@
 8?lO!^U3K|!YSK8Gh=L7Yj43=kYGOV/IJGL8vFm>20E/8|E%6Y|L(y)it!QmIvB*Gf(&~TAn5TBv.n]]b%Im<43N;4-*l7+mG<$
 %-xd&%3dG5h;63kdRAmeYITbigT#zyYlA-aS2[kn(6h^Zif>7TQvW]+|_WQz`ZjN*x9@3Br+<XJC&l-hxCrn7sX[R.'vf6jFw:a
 'J9m`~lj1WdQblv`y8DSG/~![px?yr`VO62in=IeU|uCzjp[_40jv2hqn`0&M5YB:~XB|buDwQ^VVP'Q4@TjdS3t(G6[qV.;39D
 Bvm*i;@BiW`H,3DyboiE;n~hfv/*ez2C9ge1H,R806gSLVZeO?XO<L^.g$pJ26c;.UqX^[>Is:lXHN2A6H4rrqQQ]CAl^,aA8IQ
 O3yiPc;SS7IRr)y4_(eDP7$a.tYl[GOQqEP.YsStH|ppZ7#a!I97RYT^c7CCv7te5g`8J=,njr^W-;zIjN^#jAVQd^!B4YE_?KH
 r;$pAMOM;Ef=rb-_FKPjA?~.K^yx',!UBob'A.g%d6T@>]GQhOOBphy/jmBQ_Y?GDzH0=BGodqPavIe|&QweSKTfh~!nG&1huLl
 ~jKZM`w`?zkHn21_?'t(EPj|d:_ytsBWiGb]BbWI>om]H^?i.-tlwD0&B#@Gs1v>p$cHc/6yObR*H=LT?|+j7aSjv~Q#v[QA/:k
 j-oyYX~sr+`cxbdT@@J7h)J.2svfc[tNf9IyE>:^mK*zJJXER0no-!W%y<ICobg2=8PUP&;#EAlo7&DAm=WI72)#QDq6#oWz/~3
 72~%/Vdp+2XwUzeiXmqh|@j*roQBoRwB=15bd]k(TYomoWF<a>JFAb4cZRE]e9)S7o='$G(Q8fo-x1m.-bW^`QVg,O#iNCbY0-
 L@70.!7?j1E-xHpt6m8.$AET3~K3Ee6/B^ZD?V5WD9-y!RnZ;sJb%^6A7n)ZM>[?X$lg6%JB^gpHKEMFBo|l9QU7tt1_z]luzc&
 cS#|6WRrTI?U3Q~n%fS)[F(`J=ASy.a`M6VYTOiJ#>U:U~w1<M@vw*rA`o|cv/ip+(jW1va~:_t1E^S*9`99:4[ZVr#f%2WRQdg
 ?u^*Jg@b6/EJBojU#GUCm_uh0Bt0rv?6Wh2<Vocq&5;dF#^|]*9cNTzBSqt+,c!:;]IFa)5Lj+2aXJT|2P+)-+hPC&QJV]ak?!w
 Q*@W(O>l)^21fS'8DAXF`Jk5_[OYQC+41ISXAwW`>(6sOYPKitta%)o]ifw@LNRKx_nw~KU&&SQfWrC3(ytaS~]|/.QxKj@B0V
 =@9~8JlLG]L9x~lPeFPHTX;[gt+RB'z?.b;aQS760YOa=&($nS`mJT6%&7V?QQ=kDUHWtPVbVh1xEy9YZ|JrHH02kSIdb7mXZ8Q
 5M;Dv:Eq!Cjfe;g>8&aEX9#:@V!LTb8sI98S#PjJdxegPl0QG'z)aI$i!!+k~TshLe4coO<sIL4=p'f$~m'pk/KGL^f3'M/8>6<
 ns02=y^2fF+~h1QS'~aS8<((L<)yiD8|A9])D:ZUUbF$adXI*RdsO~o^s.1~xE%:f_bay:I$%gC=0lNm1yU^=cXY#6xTAZ*iZ0!
 M],)@7&ovGNeDc>H+F>Jj`!Y[^Zl%8=8N9n.s9@F.&003_:Um|bz5Y.@]9ZDN:(7F:tq|<VWf=#hMXA=MDagrD@:Sg%Izru978/
 4UaTz)krMJNQ*N3JHN0^DpFI2iNp>Jde;gGxT1X%/T;k3k]y.^NW81'fTn/7r7.uPQDK,u)t@@]Y+-f*[5@?5=F0.Vf=EHA#DF_
 5Omy=Z.-VWM'ibG+C~%yO?maT4:H%M?]6i1;4Rn|nEg|F^^<ew73[8,Ih`g91!m@(vOV:_`3#9V^bML<qCCNtLexkafHg(s]^k*
 m9.^>g%id]V32?@xvB=eNG@MO0b<EmoWKyv4,2*:7S5gZYD>uC&%Y^cmB8*^8mzaaJgk@yV<lS6u.7o6dacC(BtG=aD&UI]-L==
 3*wz1D6BNZACSz|0~6u%`h[I4o3,foJ23,SX-0^2l,ZIou,e@X#C|$:RgJC)t`gA3&5pp3Q>zB>3gFs3%c!TC@8N!;)JN)&yy%%
 4RD;:(dD1Sm<>Q,,k2yo8c@DW)6fiQa/D|LwbV:]|ozVj[|6]azM/&)X42D=&y:M,F;X&B;]S:$yB$f.ke$;'4Xj@v;?G96SMZi
 `%2@F+PK5N<VcO1f>^]/B@y*SeF+A:&TqxC/nj9m+a~LacRX6m;V3*!DQd^$-2JN?N_tFUwPO%(X.8i#6y?Ws6t52BL20:i|Bbu
 ?c|LOT|W~a|Gr7CHmteMV;kSTcs(7Xes.@?DQ_F9y-ba`qUyi>5j<Xt<'09=IKixc=VS1&.TBj*i2Kz(g&/-+q4+igRR@Fm7a)E
 n*E*oJCJR!04qCo[ZzLkRk?y+4a.tj|O:3`zu,6%hNIy2jOK+L`O_w!uqR$wtcFR+f*mPt-ouIjQj.x>CAvWYgLM1We&@wVOs6X
 EB8m'Ubx%P9B<jPLyw6MJy15EjR[UbRe6xW8Y~h|-9>udsx.PJb-A'B,_IF=R5a^y46A#fpuW$y*?Y|qGN1aa=Y<KJ2'WwiLA]U
 zO1J6xwrRo6ciUu?dC:owasb5$|Nvy=rGv_EYo>W=e0t+ccJ*nI^vgRV2Yz`fW!aYNDttv@2[&V>['nk@4[1i45RYOsS~mtbz!v
 )J)|P#FqH2moRT'~We5-FwcXS*;$3u4-4nscfxBssMA*jhB-OI_JxJwrs%q1tx;&sQ%`b9V?|RUuizJ+[Vx=5FTcrOWC%CQWbr/
 IL)r%&j%uz;KA>TF:jp~`XX5Xku[<1c'nH_2o+Olq@Dx'Dt]I(Om_k4o$Zdjq:Hc*(P~/KO|JME<(S1.;1-SM)('`C*m.alTk(;
 NigAf-lwY[][6#-*'8+4E<d]JQJ<i1#lyAyo()m]qJbJK]Lg2%=~kQs5t<,S,|Sx>ALxZs9c<;eHWql2XIxnF7ES`FcJ;0DCWz7
 |B:SzpsK'<=eod;A,A*#HU&b?%D^Gu=mcP~D'feFgK|=9[zp:=hD)`|UU;=PTa/;dC23k-IZw=j@QIkS)i'QKjgK&JG9r!#,u9*
 e35Td7Z92fLhOajAA*UV19jA`]3.A!azB$4?/i=-4%19[v5o!?Q`9NepDEFEZo0Y<,XUr8f[#~)1lie|E.jX/<gn;;cab[w~Ck2
 L(CPOOChFP$a]gPMttS'ewdrvF[6u|Z54P9+zmS/=r&v4xZ*'.F^heq!^g~i`v9fO/4AK!0WQ[ibWUf(2f>X*^*RT$%RLXVgt'
 ~#8.*(17<t?K=&blv1%q^2-[q$uocs~D1i$2OW<7QKq$4)Ig]QWZz_cT59+KWgCkk/5lSAv4e@!cl)VZA9EzHz&vtwd?bo#B>%&
 ZDD?;Jnia#[k'MerWQMLfVNz?D#9f):^YEvC?#R)ki=.YyCSUmt'y/;EICc,AiZi#_.XkxqhZ;DBa@c|GOZ%^YxFY^'K'gt,Xi;
 >paQe29T:t-RxFIMW;7Uta3oJ:dvnZ-w`c(x$AYZj,Tl3!O5VsDX1)x(k_xx'Zl/VZR+;,*#yQtCzgMxlA8b.?BLvi]/^W7ZdN!
 <c*/!=4o!PO4DgW3(SvUd:-<S<j)>YW`sYQ_UwEdhhwit~+/wuQ*y[$l?l70vm7U,%;O+O0b:#eOGzAtZF1`[|fF+5B+[0`?YU]
 *vCJ`he0!`Rds7:=*I@4/Gq*`O8[DMusm!qz%9u0tmfCh~UBA?Env(i>N%xmye]a)oEa*kb++~3CsHWok7bdxp:EcPr`AqV+y%>
 );HaFMsr]E>QmVWF*v<ui+qe3%wVR>aT8)+y72s=MG*>[%evwsu<TKEWdPV98a.<V3P`s(G2.jPPJU9`pJT9Yn4x;mS?&n5wL`^
 R_ye!&1o>n6:n_dSNK?A%5IZ@(VJ[;`3i46WbI:.U~*eZ(ky/DpL3XOQCk]Z8NQ9bdD%__Sbj409nUt;&-(R|Gl|Wc?Quw~%[LY
 >k_;ze?1Wcee`%Z2/*-QXIbNDl6_WHSYu?H*#k3ZU$kyh7WJu7-,yN[@A*72G=l%@pBoTKV9DzvUhFF$=`1Tm=WUEN9[y`+YNNZ
 S(n@s~zD5,wTt7r533R)VJ_dallQWT%@bWnj6>5WBeElHpxp*[9NN=^>.,ceXVPMlANTF'S<USb@G3/M9[Vh~V5>co>o1m(9+i!
 %vfF~l2EbU:zf1g#4V=YXtxvUbLJa'/5x@=i7!^t(eqT/M~q[*h`'dic+Wr1:=R60<$$S^_l,XEydGM]j:t>ET(CI;!E&2I5P#a
 f%QigOiZH-Cv`Nw+gh[b5##LC|5|6=UdU@d-6M%0[##I-h6v[q-FVKHM_11#0TuOi)@&;]@I.0Hx#HS>KGDy+VI0JQ9!PQVudA?
 h:'t&M@'t^1riqR4_MDB!<w/;r!`=<GS<@c0.0R/]wil]&W[X'6+g*JE+@R(FT5Rq9PbC9*yGM6yq/<?Q`N;E#oDQ%DRq`E]iXn
 )6tUMA1a*7lVfhbgt*~j?I-i]0]$5S&!jpT6</Zcp^McLoiD>].&W+s7k:moE0)!|i7SPxSX?z(~0w|F/^)<#+TEK5ISUiv]cd?
 K,))>ZU.mV<RwVnf/vYuZg[NiYhE1~?~Qn6=pOO;x(9G8YxU@vo!L&#ppN*X.3HsEK&b&BFOi3iX:O6X_m*A_?:oibM!M(hhhN9
 p6:qS/^YY7an*F5Gx>j]hc.t`sUU8q/Es)#c:r<p7!!YbM&D+l~idEGQx)%ezV<w4Apq!:9cJXNA85Zs6g#?NF+m]8tG0E+UC~D
 a2P<+KQ7l'6ojyI`U%i_#^|fUbDh7$AB8,snsS;9e0;u.>iVqh=H%;9cNDXoa_cq@J=D*2KAWU#oG_&*/+.;zU#!Zwltfzs~0F
 +#BlA&(pXA8c>ao+`9CQ.pkr3(4Esse'I-*+`9XEYDUBkURDitaf;fetNUL4mg(m+djJ<O?:de.,6Wc666p!R[g/@8mz3Ao!5ka
 T9d.~UX~av6K9XZ@#dG>sMk(;tEFgXl/V(h3Ob[MVJ/&pYP]sBqeh`#Mn=Y$pKXx>9RT7gF#7MJFTaQW-VX!s/cmQ=y!A[3,fvD
 MU<^N=!w)@I?>SZ_1MjtU,taT[<Og[R@_6P?d52_sDy6YB!L%FS4a|wCHNSr$rt~ZoLk&VsxI%<rrd&5$g'A]xriI(IS-B=EAhE
 B(7PyXfcIh$)R&$K@'Lu/,Vc;G)mj$B]fQELr%|(%`raly&g`&6:Uy`OcV.yN&^WIpn;T&t#iYreR8GWZmQO=0UotpuX!o~Fa!w
 Fk|GMN!cK~:n`Gc-fcOE_L0ln`a&`P23n.kRM9HjL+Y2@FsfUDmH/H$<wL97N$~~H!+sN!SNNMM=-PvjdAclS+Ti;47=El|vINV
 x3=j%$~[!Wyh`OkgH-.hj$B,8&mx<';18e.b)/Ub,Wd6f-2FI$=ES|-HDv4_`:9KyzL2Z*uM,j%FT[i>Cwr2'*wyuoS$$Dvgy0
 a-T+1)bR^h6S8BI%+xD9XVYbGO5MW!B.?aK~K8d'GQmL^04zK2A,?:4Rlu6=m[?|V1/JF5B/>m9yP$tgMqW5M8O<]:dT`[,>#V0
 X#8BD!,Mh+O'_ghe9FfLOt,3U[WVWDX[y`Kp0+cA^O*JU-7b37<%+(h!T[45-&ipuH(y`q%w5[g.[E<|M9NeUiJeA):4TFzWwG+
 UqsvPj'l_WW'ow+0pOy./na!M(z2'UYK4Ose;I&/#NbeXPnZY8s7H>E2P+p*-3)5gTU_86vc6R(w9o(]XKu]UyxaDy<H'?%Yd+V
 njY7bI9~-]|Zv*)9#3<,=5Q/HtdSSQ=l_2;u7sat;du0R!('Hx,N]|Elg9M<2bUuEQM[p<#v6?K&Pj27P/[(bp[xD7PT_p62TTb
 Ah4y97]fL&)r~YML-FYTCj#2)+(fF3Vpav2'_U%3HBX6g8Zfc!3u<Odfp/$aOwcJw(J^5`zC5I,Gy3;x5C(D~Y3(#xmfbksXsNR
 ia'I]iCx)EfX,0$1?TnmId0k*|GU!>@FwjsGqiz=lO&8BVfQ6wgRsa+5i~SN]S<VmhyXgZH7<>Q;?9dt+vW?3,XiV,v*$HnRDSK
 ]M~c0RIzS(St71&#Tl)%KXlEJ!GuKBHiMn|*Kc#9&jQB[qNb'kw*B-$0Be$4oO9o/&M#Zd,%)$NUG0irx4j<!5CY|LWpZ|lPv[
 `@C'L2*[nni.vWeO!*%L/3ztX,j`jg'v49aP/7,1fZ%6mQINExp_I?ru#pU~jL|cyXxswv3w;gkPkUF>c#R6'Wz&4xN`RN9HDsZ
 rdov=GQYzVOCdpk4raF.2m0Auap]_ApduRa4M2]C#Hs_Tq&M!FLakrW5H~Qzf0TOUe'bQ[n[ZB$9IQ7uhUv*d93@Y[aHv>qp=ZU
 O+k]0Su8mPVG?R%>1^1L.Vu[w]B7'5cVR4rWjeY),!7C6DlW'>opr'R6.~S9qR<ZP,0~IXjbUg]+]6vE>!`z&xhZ'!Xh6k&,L+n
 T<Q./Zr9Jwl*I?Gz?c=Zx%.J!e2y']Lv)!q:AK-g`r7sbaaBvDc#f4Yo[S.,gl+>s*[]bf0Uw1Zwy]xBS*%FIC-6iyB9(*=rI?n
 9Q)jY&KF]cw+wX/?_q~8uFUu*&uEi|m>4lSF&WgJr`+5F>'I?Q&?Ga*NLatvWTCm:sC-e?#1QW%hcYV?)S?cToHHHSA()K+^ePV
 ^&Y)ppRuZ(ct|LnJ,|D;d_(CVG>xKb2E3'5/R9-%(KAl!a|.Kw3`Q~+O4qWr#yqc5WWDsTD&ZYHQSm#nOn,q?X=v1A,?uEh&s,@
 HszqM-2QP^oRh:)+[^L52fEYlkPT0YEBc,pX(GA71xQ&Vdlr0%!lmB(te;P047q:mC&YC.>3[hU|=,MF?3eCmsbVW0v#mg,~A!`
 R9f+st?VZOa^+[/w8Z`vHJ<'LBJhivS#_S==+ySAH)F*d-aWb_jPIcfGvuKc-e*_0Nb~sTq'[)LhyHnqYi@G9imCfa>L=D&(ik4
 C<Xn:uK4n1@s]<7y;eu_-~GJ3R!+fe]OV.[XwG5M79>)n%/rB|ujVx<v>u('v:gP?EOhG'^9S`7|eDJJF2cC:kl?N?1f|5+q(-7
 AF<cY4*+@z@XXm)=_=&qtHt#.`<OwrT`$[7z3ZWdtc;wu2KL(v9n2[@j0*tJV_8jEvyF0J($Ub)?//'_V8@TRwQ:.(L~fb.&#-'
 DW,gj/>em<,gOWdcA-[$s2[8>=]&zB2N![YZl[E9Pt7<Px97&BS=oF~jeqg>O5=0*!vE2zp!qc:D#e96p_NisMf6dNkCV?6l[L.
 BW>X+$tkKDv^*N6='-+/s`%r>G;_`a%k7g$,?bLim'_Z,M.gyOBuD5U;;bOkU@=WtF473(u.<!Z((q<l!),D@btQk)~bnAX^Z,B
 wc9!:Jx7I3kw?hrrbOXGl`fSs(?B?H)>d+8D'q;1*dzpB_!PY[,WvwOQ[g/`Ch,Xf6o_*@%#V0|I&Bs6tnE6vr@u.*Rn%`,oGA*
 lcv(mC7)^AN=[Y`ZN:]ln3[(g]YUZ_?v,mM$'6E]a---Y&*QKtoO-cbh=[JLb<7se7pwU+]&a,j`'TdpRv8T%j@tKPpyFCMeOFH
 gS|gP>cBSz._.rFj5w?zIZSo?J04OTT(fPLIN^.?NkXuAooz,X!d/7[iSVQ0q1IFx'$<$EW)sj)esa)w0DlS*Po>-ZlSsU]a_=y
 Q)@<q`6/AvY1r%SU[n(pll>T_Wx6TCsMh&)Ki7Lr_>>|]i+ZUy|p,!d?(Qw>@O&671w*c:x>,>J~%;SNHu5?3bP^%x[Fr/(IrmQ
 AE.&KF$=bK30M9+2TKd#:-yiS8GrTdRmiQX7m)ssBVz|iRC+U-QiBn,[Ys$4Iy7e5k0yL*!BWxx0:E2E,8AQD%KEFG.HMf39KjS
 b*@%[pUq7//_)SyqL'@uS:g0^u%;'KfOQ^M$ne8j16)7J82MCU?5H4t|D*ll;fh/~4P!SN(<@-ZPrP);[UJ9GyB?6^H/Nr([9|G
 $oWdLdq~F`oFU_AVyZf2Rsq6K>WA`$oqflA&MQU,Fd,;ZT/dd/86h;(''1b^~yyIvU23LJ;=?9pkO6UWkxGfH1'/G@^,JRy*Pt7
 B)'E<7jl9X|da;&1HGG@m|>BV9QVe-2O*sj,0*q-MI+ZPh6YdOj;v2p+z](%*No-#K=RTsZ,6$EIl|Q8#</yh`hm%cCR;4+C&:S
 hk~~wz|tp-95-1_%YD*B>O~V>0Jh?r)T4Np<?ZSHDf$O~<;,1paGX`#H8$:M=-J)@^tMtn.A*VB;s:=roN>dMU_hQ&['n]MO'~r
 1x-|0w<`9wO`_?)5^yR=jT[)%XM=r,&<B<jRd0-L%*U-S'oZC#z!&1Jl0b$Z/zF@Z;)lbD?3pvK+puMr?91%+6YV[Px5e4nG[uC
 '|IxM~^>Oa+]&C;kjLa2WnRNlBdD_HJgBCdenLWY0RTL`PqSeN81]x]+h_o:FLOH7qlgG%K>#;J(]K*K>_rB&F`/X1Q(=tpY3_c
 u!>~QQ4eFfY~[a4v:'nIc2Pma|ZC|N@6:JP.z?;mdm!jRk_0F/b7-89xuWk/n]Q@%21YI=e^f;w(2Qo/;pkzZU7%g|NvX(g-6pt
 )edGZX#4Vp,n1zA7ddV?6/$rvvQI1wqD$`5FQcA$E8J@/'Q3s;lim3qCzAQe0FdE(&e=~C8utVIXBF&_wgcHd&ckGP&8cw#rbC|
 |we,m6>Rn/:qA.W$K4)x>tZB-,_|4GNaQY'QjKE%'0~En$t8uLgih&([sM?DEVVJ/!_`biNGy4%G7myh3XJtkE=6@z9#40^e@Z3
 6_7U[/Ot#flS?yZhT4dDgP`,Ea;qF>%ccjw?&EWajtfx6[(Fa)4Rijho?T]b;Rme:6dI)lwZX2?BRubQ-N99g0RF`G?7O#0;;o8
 $!cVLshRbqt|-<fHfhE'A;lHhK)O:vW8qAM|-sDdw3ZolHaQQ&>sWQ<|4/N-Fl!Uxl6gj*MX.J`XURJ]!)lBp`W]7a9G%i3U4gh
 KD`A`+y.?%VejfPoI-?u,)6~*&2,6[<'$0V(e;Ew$sPGBUsRe[Hgp-`jK3(F&>v(I,&D,@1|z-/u@n8zqGzqc%g;iyc+;s+:85~
 I;z@jC-W!g|:&SA&@MPgoDnusrR;)L^z|.3%%!#sh2|YcujVKNz::(/PK5*q$g9BL>p*a#A[JY&hP/!tp+DCfgHa8'?X:0z[:N2
 f9Bu@$tztmV'_:~Il?>'JHSu7HR(;'^`yXUx1)KgV28Y<W:NId6Qou<dA9VZJ69!(]45rtJ_O&x49.i7n8J+b:?;Udie]&2P;&
 B/gE=GiM]Y325&Tp9RdM-E;9S;6o4o8I/(Lh![4W&T;gX=$itAQV8-^UGu)Zx5z2u$^Q5*n2$U4ZH*ti(MJ$OB1O)_(_0xu/Wi:
 H+`CLV,.MVWZZF9*p]UiiRi!Rd+f'o-uIKz#>CuImEp%'pj+'D%^K4;M~Rxq)u5?(Q_N9o1gM<R^4./)b-y.!Wh9#Xzrfw%2_[^
 ?Hf:Ry,w(@$|amA9<LLvA*K3O$H;,Df'|-3#)I7QzVPf*b3&4bdz1u+YE9M*I)<mYGv-mr3Ii*/GmB>=cOwH3DBLa%^13<F1&ta
 i6.Q@wr/ip#;FoL7@Yl6qmEhGJ[R$Dwj-$59v<0.s$&WdZpO@%yh`UMB-fA7]7J[MD;a)?nSgf1dQPhgeyCr[;D<^hqBXcc+p-/
 !jV>?rgmw0,cw81FDXFR_cXc)<$ZC1@7<pOIm)DwoGNQH7p_!*CL^?(RO<$-Gy@4X@H3,WQj#B.'xX2!|T8Yo&I[c:7#Y8GjfY)
 H4b$3'J/?|Y#wCxD!,.'0GA3$C[-#pLH^=~?RzSSELF%H*u2<&uIGW9R:nWjX`&oBCg'I1!EnsttUxBwdf#-P),s-K<N'V0siL*
 I6[DM+stLF%CA,/>:L%X^$vC,Lcvp64z^RJLjc3dR_XkS7afLvraaOQ*L.CE_M#WxwS6(Ek:hs:i)vICIZ=VP)&yU_k^:88>_/2
 (bqcx]pE,0(c'TtI(/_ijE+*y5`$oZ2,lv?r%MoBa~)xDa])x,uile_Tq]sK>:PC=R=1C%YK1+P$E!V3-NVA$o5B&%z4(shl_79
 V?fm0j0jeV@N7<_97CiOcst3/?gz&p%KR@pzh6t?Q]e_Jdi!Yy@[#45B$3(vSSSQ?A:Cuea0miflDPB?maB2&M@y@bG~Y5Ip1>m
 ydz&1k7>'S<Q[/%h=StZib?Fg%ZEGxHBxp/.7!Gr>ec<~BMuWXSjLKz?X]1`OheRCBqAVkJ(kBB'(kmV)Bua+qVbf&?iL[aOGXr
 SA?+zRc4?dTB1,sr??pnsV'iV+VToR.`ZrQEk_IJQWaBu_u~f_StKwsHdm5S21;)3fVGihmM*&*JWhH<Z5A-&Jduj^&_^Z!p7%_
 61WZ,gF$+HvXikPBhNT)SI$I<3gkk]Xc@Mh[SA24a2_O/;h%vN(A9kI=l[XF~)-=TgFwph0gEx/1B(pma$BE<9Y2U,CIv;L)t*f
 <TOCA1/3indt%c-[$wd#72]TpS@k(r?=q~5>/(i21iVj)KH-g6a_Y@/5;V*9gLOnRNW~tqI+_6P&U)5)9r53~wf<~<W&qVp3?MV
 I]q[%|NZr^(wJ$FhtHy+52EJtEff1D.3ZAYzjXMx-yRxV4/4V`*ULcNasjVdb/=rdoz$>RW&$'h#Ay,k2l<w4dQZF+n[[`V7M'+
 +.4GA2@msdO)O$%v<8D=9:g#Vxg|@Wt5Y,j<:6^y[#|gnPr0B#a?ssmXWFLHY#CJ3$TH5DR:P,u=-F2P6@Cx-kOMI:L39l.DoZ|
 |Pg/9i5?k2z5u/&dD*quV:JK(Cp)V%5%,(b=th>.m(B-3K0.h~6GYz&if@i'#1xIV$QE/|dO3;0i&@!?jFygUkID(+8@4_PZbQc
 4XT3I8L|T=%E2n9IZO76c&N3?N]al$7JHOm9m/v+eqtG>wpI#i*B"

def jisPairs : List (Nat × String) :=
  [ (0x2477, "\u304b\u309a"), (0x2478, "\u304d\u309a"), (0x2479, "\u304f\u309a"),
    (0x247a, "\u3051\u309a"), (0x247b, "\u3053\u309a"), (0x2577, "\u30ab\u309a"),
    (0x2578, "\u30ad\u309a"), (0x2579, "\u30af\u309a"), (0x257a, "\u30b1\u309a"),
    (0x257b, "\u30b3\u309a"), (0x257c, "\u30bb\u309a"), (0x257d, "\u30c4\u309a"),
    (0x257e, "\u30c8\u309a"), (0x2678, "\u31f7\u309a"), (0x2b44, "\u00e6\u0300"),
    (0x2b48, "\u0254\u0300"), (0x2b49, "\u0254\u0301"), (0x2b4a, "\u028c\u0300"),
    (0x2b4b, "\u028c\u0301"), (0x2b4c, "\u0259\u0300"), (0x2b4d, "\u0259\u0301"),
    (0x2b4e, "\u025a\u0300"), (0x2b4f, "\u025a\u0301"), (0x2b65, "\u02e9\u02e5"),
    (0x2b66, "\u02e5\u02e9")]

def jis0208Codes : List (Nat × Nat) :=
  [ (0x2121, 0x222e), (0x223a, 0x2241), (0x224a, 0x2250), (0x225c, 0x226a), (0x2272, 0x2279),
    (0x227e, 0x227e), (0x2330, 0x2339), (0x2341, 0x235a), (0x2361, 0x237a), (0x2421, 0x2473),
    (0x2521, 0x2576), (0x2621, 0x2638), (0x2641, 0x2658), (0x2721, 0x2741), (0x2751, 0x2771),
    (0x2821, 0x2840), (0x3021, 0x4f53), (0x5021, 0x7426)]

def jisPlane2Low : Grid :=
  .ofPacked 0x21 94 15 "
 !!/<|a`BlBHCy]GW!u]upGbHEkuI(o,y3vty;XKzjaZQM]@VAO/N/Qll&cN]$z(Crmy>*QgLn-SJ`C|)4nZ5DecKFB$:p>R(oJq
 k#7.;bP^|FuX1i2pRZXF+$?SQl#IK*RnapAyc+Xa.=q7z%CTVU|U8IQU,#eQ5imG-vlN$MMd8&L'H_%jwd0j#G^|V!gqmxvcRe5
 BF7sNHFX+.,7Xm?mOPLe^xh|?)U>kvRhnC=VyF2/g[k%=bDCC=_U/6R59?%PgZE2-,8X5o(VS`3Jt>~#B>p9(wFCUm1lXXo6^W<
 Gb/qeK=mF>)ba!;t+.h$,_Sa-,NW'a;tqvQ|.*6Cu4Zix<:=XE5o!-Sd@D!@?(=2MCq3w$iq0~JP&OC:[&:W#4C-|i>L4lD^k5d
 4<TQ*fovi*:njgk2_N6Ak(ZeOg4:%;f&B|LX.:$2$;2CaQ/V'qY^yE57qs0Agoy^DB^TN.XGS0mn_dX1#<*!lyA<Z1jDFWw6Y3m
 fJ-k+1jr$SB0'-L?rx?4^VLqW)mPc(a(_!QwN:-Fk!?*:>)8t#RgYDQC0_yI~;|,h8WVUw;rFG::SDcz]R#4Ta>bO(8ipFv!KH3
 OQwAh61N/o<c;oB(^9.;K?NIUtVq5O&-[,$xOU>_8.z**t.yNUCK@R>rZW|LU@43E.oLSWKW+5./5/!>d'E[$-o71/>`Mw57|,U
 ^1db8L+Rlft'zpMWLDsySVV#bf%c^U<(~&K3pj'~7)GLu:*i8;RRF@xRG`F>:C0/QphI>7>*$vP7(lsB>m<|0U[#fVuOLnmj|gl
 ZnOHp[LpXb`W>q(zN%Piz)wgjcc&9EmI0`+cuao.tkyQkt*B4AiX+j!]!%.TL%o=+ZqAvR^p<+_x0w63`V*48k5)*^HD$6GX$my
 1@%yS9823Do)X7gxT[&LkrdDY_&*8v9viSm4/)Li<oYkSLL_x8`uKTC<C*.:Vm#USus#eHI>|$VTY_n^jJ3kU7n#Kt*fz-B3Tb'
 UX!_|vXTo#co?AhKQ%S^A[;ei|Je!g,-B~b-R<bf=,@j|b9`4-Y|N#'YXAk6(U0zrDbVk4cMPk[KQ^&VK_-WEUzZ]dD.$,mB>-)
 84'0s>w9)Ae*KJ2`EODjvW8VVE.H>)U7nE4EM_ty<*6B9Ne_+R%oM1by[xu8Jj$G/=<;f^y4>JR|dz#W=,5X56vKZt9H[oZgv3Z
 DM>'(|y8X_gXlf2(DBi1s~s#w:-p24(Y)s5-@!$vYA38KhM.9e&a6rL*_@u$H))`#Ju_<hw&WF:|hCm%RL|5G2Ea/_ZLS=W,,w*
 Q5@V9fF)lRjcL1yM?T-eC$1d!O5m3!iYq~[4"

def jisPlane2High : Grid :=
  .ofPacked 0x6e 94 17 "
 !!)iYPuey_Fn)M_;HL(=.Ha?j,XP8eT55oaR?71j?n6UQ?tI<g7`w.71vC]y[L^c&#E'Y*5[CCDIp|~7V)rPTR~inM7X#uCS?|?
 ctdT~WJe:@GTOFQnBJIiw54P*SdD:`0pQgBb)`2R8*5e^WtL]lAHJ#Q4L_c!MnS<,Uzmh-VU`&lzX(VJs-!;V&Y=tp]osy;khqv
 viEyl<U2_0$2=mIFG@I.],]FOa.V.XqE[!/UwzicVuLvy:XOf#g;_]]X<5ATOEqPpDIVHe0_;pU^t&9'mH=Cs8?q@#**1>ue]TO
 &G0s6vm.7<rkUIXE)5;@?BT&**[|Juwd|DDFgUXhXm~-a5r=p24`e@eZS7>4(9;u1oZ['b2~x/M!I+jylg!Cht~v^sKHvp4]7[e
 ~WA>Kc|%yvj:'1~no3>V'06v!|41wBw[>lk'ErUKSqT7G#**AH8(Sc:g|FUI!5zU+t]ih9jyLwAUDDT]#aW-Sn_jVY$]<xux>Ry
 v^VNaSd#5C6$D$3L.<@#Fw.O1O(/Mg=~9U4xaq#zJyT#%hx&O#v!(m[(f3D&nhi&qX7GaG^=-&_v@'C05H0;IRR#j#@z=9!]1HB
 <<!'l7WAn01m;sRZdc7`.Mgh'x5v,y*zMJLc'9`^hk`Lb!YzPs>Rwnsw$gs$,`gJd-j+fq,ajruH~B_x?m#V-@HT5act)?uWJxd
 J>bwKv8b$AB)$s~3rDO)QcuAZG;e?[$k<VO>IEJ^)$=:kiaNnPk$dxC@KIpw,+o*9D!Goc~CL3KtE;tjn9mR:hvC)x&Umm=Ho80
 |r^K-[1I?6C;g9tpPE'(o=Vf7=7/b9J`K0#AfG8nr~-?-rLR-kT=UP!x*7#Ajt'QHlWo0'TY[lfF-c%rYC7W5.dM#'B;0fy`(n5
 QsGR=AD<U#u)cxk0qg@fFnuJh=MiyrKHe-)F=UaAajlj5nP_!d_&p&&K()6ey@|_S9~f9*0W3O5`~b!wE/Hh'$rmy|mjT_$^fE6
 T?7j!z1g$E57stwCQXd`Q^eO6EfC7b:J2p(Xrd].,iFv9ZA~~?<'A8]yfP<%ap!X>On!6p7&#k5np|RA$@=N(%<KTP[Ljp|TyP[
 _L!a:A&6q1FXZ46%HK[Vh1&~BXu8UK/Ymo|oSBl'ESR$OcPJ7EM`4lROp09x(;8dFJ*$A[,`W.Bx?!ToyR/ewROC4<]5V7K@rKY
 RdLEIV-*Yi$#WSH<wo:AjY:r1N$'0l2HqK@)UTYj%/idw0z_vmdj#Qd:81SoWLz=m1AW~<CndWL^dU)p!Bh?MbjpkISikN?~C)
 !#+5TbtT|Be~[)VVP8OQSEb[Ni6uhAaX@%zPX9r!OJ%C^Y=+4;&&5+m#&h+[lspW(v=)>t~]J*Upe08GxWN`!rR*>`qWC.54Ey'
 Z$n^s2^UYN?k9$3xoGqZA3N*G7EMBrlH/IYmBUY5k0w6$H5r@=pXZm%Qy'?Q1G`>VOBWvUTIR-k92yC#,($2SRggS'W/uQy!6qM
 kGkr@12?(:(N.uR#k&R>8*qlPSf%&2u*B7|TjhrmYFgnLT<uB_xY;0U#H/[s4Fd$DXeN/hhu[4Q)6ZHBNY>R:+0K9BQ.)!D&HuB
 BW+P_rMfR7OMOT|p3D^?dc+y8IhA_ZIv7?C36^~,Xj*Zn+IF6xVdF0b'z)~7Yd/|hN+J^0uzhziM&H^%WeTaH%uD-fY&&HDdG*A
 =MZCl7lEvgiv%%wk.-55wXJCF%8NJgn8?$-IwtmM*w|A']XEEce`l`|s?7Y0xMB^Wl<`.iNikGD>O|~ThhGD56]U*f*eS1|xZ(_
 sj7Z.Ie@E[Ir:jyy21x^]y!$S-%0hY%sP2u]<>(]*pgViE#molOl'aVtaDn$<DkH]$`KmpwhW1+4FQV`JBj9+uZI5;uVVSGv6d,
 W6diS!a:6PCpof(;N*qE,f!1(oDqLvL2*GZdCOtsl#|6%,N)r!iW;9i9(%LnBxSSVp7kI2mo^_TGb$6G<9~nNEuO7`DKfK2k6K
 X/f-h`e]d9cp/9/Jc3.RWXnJ7-Yq3_e~<]Y=IMgJy!gpA$_jaRTgBG)8Y,B]]siq|10WxWXBeW6sLJAm8_T!lOa?,fm~<(_gg.s
 %:2yzXvP2myMu0oGPpuvO@y>:h9lC.5DIJr)j.jQ8J;/iWLM|vAWW>DBgq.B_^Kyh5G$?e(vwWqVXxm]t*e[Ei,rZ.w]xudr`(k
 <lg=aOyI.A<lt?_*n)p-15p_r&JhrSGo#9t@%)xrl=F[[mOt)d&Lp*Yo`9foN2HA5iy(+T|"

/-- The extensions of code page 932, by rows behind each other. -/
def page932Added : Grid :=
  .ofPacked 0 94 10 "
 !!Dm''B2U-o&];w4E84]PKcRpBYuL98OG`7|o~Mu_'D.V2D|X+7`Zi`;D%|rb+.i;@B[W9|?Q(km>[BW,5d,a=jfGQ)X@HF7+]t
 Jam|/a5-zYX0qF7f8*bi(Y.QIS^/:JLn03M`EVeo8phGPP.g!rXNa[Cx&STxRi:=UF<W8=_y&H3Tbu!&ZAe=F@P]&>Yq60h6Bpz
 b~9g16`~0=(%^PeOy+8B5lL'GsG+mn]Sqe@/YpH0)RWu.=r@v(b^xOCIRMUn)!1>_pA^a?(E*&R57hW'>CfsR/6Zn|g&ggv~V:g
 pWDAo?S7|WaO5w[ga/igy[7Lr^VJ$Y5Iq8TmJy`+4KEiBC%+o@Fb+e*IYv'@O=`n.WAkt/19|zs0#P*FGYJmvz.i2.f|KW#HfcZ
 *.0'Aj[1$C^,gwMHj-4B3`rz.k#`x?q->z&rXi<wVuZIjY%!~u]QHO3VLcH@+coERc&m:#|/ex<|<t]CrWI+)&v/TO-dYvh9dh;
 '@o=|b&^E6d%8~?%@<ado)gJlUwcDG9y:]s@sM*BstIaIE_8iLLS&#Db)9|r:g#kdJ3+Vcv`7DZhiQ!mfOg8`'Bm8P3bO!|l(=%
 z/p0Ho86Cc(XA2*4_gtB5+#G<kgJIdA@$YpYGyA8!&d9juWv&eq%s$q3tToTYf;.7LbV=pg>jZ%j(tan3Q*@zfmt~&VEJNbO5|]
 `'zS$qtNAz$98g?h1jxHMeNILFerqt;x)!o=GcHU$VgPO=layp)djpzI&@egzt?U$])t'Y4hW,|bT9?dF=.=:bBCe73L#7gR2Zo
 9ND<X+>?inTnW4momJbL#0ea%JR.tdk:q%CSrN,#~C&f]tWQQ7P:VfU/xf9S.ID5)'I8$`m+3`BhVaor'k,0M)vAi=jT0+f6:Y2
 8_u:exCkMuO0"

def page932Changes : List Run :=
  [⟨0x2141, 0xff5e, 1⟩, ⟨0x2142, 0x2225, 1⟩, ⟨0x215d, 0xff0d, 1⟩, ⟨0x2171, 0xffe0, 2⟩,
    ⟨0x224c, 0xffe2, 1⟩]

end DroidAudit.Text.Charset
