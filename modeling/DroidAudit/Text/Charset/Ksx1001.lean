import DroidAudit.Text.Charset.Grid

/-! Characters of KS X 1001, in a square of 94 rows and 94 columns. -/
namespace DroidAudit.Text.Charset

def ksx1001 : Grid :=
  .ofPacked 0x21 94 94 "
 !!Dp7B%?>3N`G88Vh)fKkN$c1D%`#utgj'8YS'<no3h6|=sWqFyxHONoN(w'*`#>)R'-?pjZ[spWSx:)V|aF^H4dP=o@,%T%bOL
 w0=]ifg4ViizA$^#=Pu[/*#i8`yQ9OH|tIh-]$!$5Gj1%u_MIv|?jx[70e8omp=Zg>:,f+s[5~]U6.6ngHu%Me#--i#|?8px$n@
 nTIjc>Va#Xt?g]BJB*)wtJa&T~9tl#VK?iZ_=p?K$@6^BF3uhFuK;G$Uw7w0E>Z`$znzVDrbk-UY#x*VTKjlDjVBK|B;gYu;i|M
 H=pd8$xkFUYfYUZiEnR_&nbF_e$so^aq=h`WsTw$PC*1?OqWn@@sG@hQ$Sq$3AX&:^F+p)._L!XRxT6$WQ!FqLmkEC`t#YZNDW3
 m<rKU4`<+qq(2hlUnfh0]H1x+eKp&(VPT5;[Xl/;5uDt)%^'GM|4_$Rav0CsZRfaGX*-&?C0(O>uN|T--1Eur&#+zs7p]Z^`%8C
 r49A%w)d6.f6Sd7D!T9i|)A2X@seF+fjwKQkyuA%%KeUGsymXRgWLQi728Y=zoZ_MPZ@2uU8Kx/$(>[e#?Wx9e>u00*5YdO&j3#
 IC&@&Ti$G1;QKnx#(%?;K@6fcniq,C3HK_#$5Q)yw)OT>:g.,YF^KJQPEhAx17joC'8MnN4K!~7(yT/Fn=h?`mH:za)!IFo[(4k
 0FIh>/DX^-P;*YJ<n?B:a'*CfzgrkQ&#hgv<#q_e#fU%A3Zm@Z)QgNknM#qIb3hb|jd'PA#!fS:~G_?rB>|ZNF/:BmLp>gln,BG
 D9QTywXvnR~M(m&%!/hH6]'Suf==5rq6NA+ye]+AdvElZPBlb?j<Tt!jUARA5Bp($U@]!2U5!R(aOOP?.#T^i[~9&'=By<o&pio
 mX[T]423U<8fa=adHsWD(OUM^iLN16M3V4;]UkY$+PRqpTABCquHLh%l5ECsZKn?#m(oZ/b4q~HOhwbY2u:TdxF;Hs!P'[n6XD6
 X>M70Ee-J4)H$Z|ePM@%sCB0y#FtLE:`A39R*Tc`nSf)D5P|b;pksa22JxI?WTb1B`VO.4*5%LG7itHL%E-t/K1x+S%a6Tfp/:A
 Pg%4gaT*`Z>aFFy=K6]M0uy>h&Q3AI>Q+#YwKJzF@bNb3f%tGo.`2;ed-%DiX,cm6G+.NGK_W``;Q7qczwo[-ve9O^dS*m2:I:N
 YwIaD_`'V2Y[)3,GI*a74Kc~rb<q0&/G~kP$s[2fuYkkropr_EoNnmWIGLUqT9lKMt`?spO(dTkqA*mL,k|`QaI4SC8q~;_zTT*
 ND.5bobt)N..HqJhCJvqJK)Z-3q=3%Nx2Dw5?+P?Oq%*D[S6+B+^QAkc[%jJiLP0vgNNfY-qp1Ef~Xhmml[D_7B;B5L-(d<(3g?
 Gc^Z=|<mSQ`aiu%GPk.B+d(VRS@fF@2D>E$Q,WErjlT4,1hT<58;&bm.smP4xLUCA1UNA66oecQ8q4^se(Q`=#3$$6>7/x;l-0v
 ^71LiwT,oHBQ$=nU-xzI80k-'PXSNe7=.6Xh!=tEZMFy/%Z[E:=g62$cM62tG,xFn&Yf*Q1tU6h$]l?0fNo*(f-k1<P3zsYd9sH
 ~Qak]WJ8uaUD.!uPd1uU)#g.&~N4mWs%IUPQ:;5mI5zb<@y@>=5md'-v$doT4426@2*k_ivzFcifrwZ.JI%nQfdoR!>~:IEAZPQ
 $;2$;mR:*$na%+N:(sLb~%aJ5S*~u#nfMfZ_:dwFIKCa^9vqG0yypeQy$^HcZ=b`MU,fK[iVN@(NrY1>;SYxg%sTL.|GP(>drh
 O@2OfySRu=yOf/pAhMZ+%BK&|;7+t6]dVc)!_=oQ%ZjRK~L+~6^B<4Mr@*6*yeJ*Sx?2CaE<l(9pMovyhnZ_WW$RJBUr0:a9!=f
 Y_vOU5Ke<'LPA/mW&B]w9_dQ!^Y4l%bhfl=dKhQW'OYn=FAD(R:#HK,yDWC2wo5y'TsEJe2|MD(Y3q'KY@!X?*$x~%_nI$X--Y<
 8ByKF@(+ZPW7f4<52=<L<_?'GO9*UhZ)`q!I!0Xmz+=fcn=+@Lw[dor=BK@;ZS#s'2Y+su]=+[eitO<%83H[EJ`_8+xU.<hd@uP
 FH2+silc:!E^oAb:Be?.3o?IR%mG'P`M]=E*IN~qz?GZo`T10coI6,vuXfJ57N$G1;k-_o'q7W|h$fC^L(R`wj(x!Klg=+T6f38
 k^#6Vl@.?ze-nE2]Q@V!WDct2yw`[EZ5,:*Mj;Rzz:|n`#*1RPu?li-_[[Ck*6u@d=Ufm/[AbeZYdz3fC@A;A;y!U%rZTgF`.1d
 vC,-$MfkHF:gh&0Ih>QJGftv|9_9dDf*1w.E<n:c[`'k8wj7=u.tYO0)s!e)tDyTC&pS#d+<2VTpiV>NFypq_Htym%KhE(:(DUF
 y/6A_c?0k-OR'xP;6H2b(7H5gp?!]93,6T,+ha,EKM/qN>9LYx^ry_DF.~W(d0l'.dQkpfqSK8?]1i`=BiM#avX36-g/.wF@=9b
 D/XxXLD]3NV%xSE$a[PzW2+-'0fa7DvcivjDqq42Chb~4@8F|C@BMWxQ&9t41oB8`Zbg(wANIu#gd-Y`GkTj`E^:Lj+,^DdxezL
 JXY#PI:EYFI&8Xgwx3C)#.s[Jm)$/F_(R0N&Wn@K?~#-cX=bY/-FdXfZ;s_o%<tI6OJefvE8sE,Bn=U4!$Rs>-#idmD(p9R;[?X
 h^,3By;vj,6KD4oPZ:Q3ET(|c]1UrTsY|DRS/`xRD?g`.2M</X-YblD)_0Eq[B<NermnL7>SFwM19<gL,a4q5c4G,m2P=BP-STY
 sD;8STCAc/yazKdzW`)+Po1mDL%>]!-_(F^fboEj%%(AB1E77)8X'_+y3M^+oSrb7+-KjZ)a>Qw@4sZH-:.]>aTOe0nN;7tbp7m
 [CTl$,BMRFQu)w8ho6*|<za8_4>o+,r=(Bpb^aKVL/kxN#y2Beiv')fTVAAiC[5F.e|eR91,uK@S;z4mvZ2;V(iP@,h)_.S]aCd
 1?~F.Xl7jog>3/l6qLd7KM9e<vJDbUY0k=Z_`%H6hF&(^zX=yo.]b~T?(*v8>qZ(leKZDNy::o>([^d/`m3Zwe7/s]a%#`:ZR;@
 ?`dQRV[h4d9xd5S%2G+W2f^?w1:wT7sXxLl&cP'VSC'B!U^o'`[PB3#,VE@5h'a,Xn%jy:V`ggeP42+yw%_Pw11ZEfr8^qaM1PR
 W[7FjTw?(v`n]rIMQ$Kvp^eLJa%_2N&:ub%0p8o;rb,2g.<wLj3/8#liKnid|BI:1s~L3hDyMg[AjO%!`l89X8C97^l2&e*<cZC
 7WroRTXRaVQ*;PgkH~`FK)fjre$#b:%_S02<zt5Zh2?RoU*QcvyO]#+^/$/4Jj5YG`&a---t%!CxyRwc:LX4<&g4k.~F86BO`&T
 lqTxswdO+|t$a]4@i,Dh0Q/klDQXxfrD5q;y([#`YBHgpT4#csI~~3p;EbG@]wQ!ejSzJEB:/SULh7QaXd=&GH0l8z_ac/k;YFF
 iNtuDkX@gf#|N0&34PEBR1Y)LnU:jQ2DQ*ov#yCMoSq_8c5j6])iaC%x-O3g~8D^eR-BMZO$~&bS'weezWWSY5fC[Jqc%NVW10`
 IZ^JQe<*?z<JxYy:4lTl.1?dyr$Vh<~;l$dj-N2rB,(u1/ZgvO9*a_?'pvJy@r6R;IEmm35`QQk+bW0vqffpF4g=n!BN`E>:|i:
 gAm,eIK==>Ar23]zN(^yVG+cogXa&Dr.RUeF(H)QkZy-B$oF.u~J>(F9g2V/*0e$&aGb9ajg^U8Q0UM^w#`()N`6`ja``h-@0@^
 Mq#yLN7F-pZ'1>AU+P.(9n__L^LpeasEC!sNHubG!:Q?iqQ,W:$ynMfZJcP~<3ws,md;V'[0JQ;z*EpF`u_YwJU5v#>[owPmx8I
 eWmN7=*s|?=I&ES`NBJ7|BdutHrri^FVPrfSZ3AG>K_z.CA?r8l>@/6'vKm@mn3_Nc&TDeUJ9iQMm0'k.x0&&aT0Y6O`_f)=@I7
 )oT9L~NX7C6iY)9;s:v>2/`L/-cLwt+HcfrvmoZTTvACB@QzR67,eJpzAH*'6Bsv:[89kHk:%G$vaP*1d&op>U<o,)ZU|iUkqNi
 _L5A.xB9XxMGMGBY],4>uTfUV+/(nYgTNNUR&*_`^_5=N^NOo;CI#)HJl_@dMwKw-eOpS*$IO3q'~R;UNft(HE7<>'-~V772I.v
 wAUx?~9CO1$dwB<hI<-k*R-A!A!d=k;/$AJ(QF?h6gCQ;F^BAsS/']2tFtT8sV@8Eve|P?<0e*fkEljR9^wbJSc$m9zLU1YTtLw
 f>o6V~1hm[e|UE4['LlZ4i<>tKpBJ8cwrOD2zYk,0B%o_UcC,PKU>`otzvTv>o;HJ9VHe2#Yp`17tGGc14d1O!515=8<$Td/vTc
 9>N_2d0@b#7I,8HX8/9@B`/LXM%1A$GTV|e5mPJ,Q]l%Pg@@$eSB-:9AUqOD0:4ZH$7<v5;-a]BHD1-e'w_o*-mizx-UJnfKrf9
 DwY)5[[1uga%+ZqFpev<?3q#<g$hGRkS76A6mi7NGs5'61Kx`#@q@.h9'OaWs@Om[|X3LF-QpRj!X(*e<BXpUnCFXZ@_&moiDs(
 zt+fWb:x6a!aE7,cK;7l*ltle75kv%4.'-tslT32%-?WhKAyyCetlO[>o]Be4R02:~C:v,_NX)s**yR6*433DVaX]$^BAi>:yb/
 [|Jx^&b~XqZN<0k'9CwvNC.|I5F-OQL0L^iXv>2|zjr>:wwv_x)5[+Hq|F0hV?-N5*+g5Vk_hV=b=.aH.94Fgwpssef:n&V'_JI
 +1rGaO@fE@A|Vd0!h0iH#`_dj`l?Uzm|QyE4AJQ[VRs<wk7nUi`r92V6X#,ytH/LE-[aVyUnolV?_>iLVM%9>?:lmUL[v.3tVce
 MIDUw6.#2'd>DGNl$Qf<?y9h'DICeP*YNIKa%zg$D^r'6B3`#srN]D6Iu<>swKL!3SPD/22:!aH=J26H09k1WCuc(kY#wUGIAl
 l-C=t)I;O&jM!rrevYui1<-.N5]Y9aUQ~~R`G4,FMIC+#SL_!E8,Nda5Tvi?Ps)%`;c[<9;W9>gaV9_^ODcwktdQc$|P%.=c*wQ
 ^j=-Z_j&k4gg15QlTnmgIJPgo?f11TsXDq4E<GGq.,hl@y50&mm9|E'95SwIyILGIW5cy6[lGayX]1YX]d?vY9o+Jw5l(W:80*d
 n3QVx13eLh`TXIf,Ewqdc~n]*H.mZ-a3|BOj3ah]c7Cd(tS`mHl),%$5.>L.lA]Vt61sIf$SkkXiV_et|);[|[SRy#(^ox.nr'g
 =(s$EM[C2.=Xg[+(#ug[<n0@[8L(FJCA:s]71t)|,UNjN>]D*!P$(u6~52%8ZS(B9?:IKL;,g.alv-w*mHGSs?~imClt-bGEq'y
 K7_iYbQx@bV&`umGxuS.^O;JPPx;-hG9fV+kM9kxa5COfM]%vir!`*D;l2TZ(`>g|+jl'$yh)[#C?.oF]/,uJw[:-r)0mIb<,1/
 [|QLRsN8nShDTV4KF<.PkNy*h2=I88],K'MqY0h[grAnn$^BW!dAG6mx-igRg'e]tKKfm5.Sp9h%xd!Df+,XSO)'Tzn~8&YJ(fj
 FR8%#4&bpN+X)zj<dx_Q]SbB[jUhjU2O/RY&QqD?P)fOb%jM=z9L5Usu?VR8`R.vHJi$|_(dO~vHN,R726:Iu&j?&3cU~b^q]El
 !m'2q1RlWjJ|iS``/<y./B4JB_#Am#|5[d*19?vIwtbi_uK|<./T~mOz4zV|VD]OUFlwwh2DaFeW4F*m<D(JBd;!/z9?*GgYML3
 pGxmCNP~pb|~YXAAc+;7^>e4)v|~x_2w(BBFXvEKm>u2hiy(VM4t`u3M!|'o&fV8czj^kVsbRhCHmK[v'#Mt)mOzXw>!'k<f)Z>
 M9TH$Yr;o)+oCv+xgrSJ*k;y*(k3`|%'9NtdQSGEp:b$jjQXI.bUgZ'ZZ`JS75)bDN;J:B_?~nh^Y8_8~6%:p+n^dm6i<7G-+p?
 6uVo~P5c-8OP'(C$AJ'O)B<LAz%poWL(MV7Oj<5Yi0.:8_OPTa|SM5~='TrrQznmqMITY?4tj<wT_+YL7(:5eS6~GgorCr/7WL2
 cS3w0Tf^'2ALwzlEWu@DMdS`=PJx'm]naO|5l_d'Cj6W'Ol*Ikez)*D_x[Q1!k.2q|1>9ZPs116By/*;3ln.c'?ye5y5Qq/VtPx
 n:bdIxwTR.X>b^8HzN34hyW5*_R2IB(Q~XW9x<3h#VXY@R`al?<D`;:G,0(T?ALf@.^H:Uu6.ic~t9PZ:.kL?W?qv+.tOjjfAYn
 NeTg$3l~[_CT6BOin68pg4?h#(]A-kC79PB[o^bn0uBqfY:bX:Tm^s9fVnQTQcHvW6^_/$O-BC!]^lVb~5rb,>Obb-=8p8E)k@c
 ;#a?__WXbCE>FCBstA0/56t*#N|@m4gfp@_8#Q/iGTx$%p!m7q)n<(aju.N:P=Quvx.QeHW*61ZSD:C2B?>zR^VbL15:TqkF6
 4/-cW*U)RZX@~(k7-EnJ(6I0GBP7[NZ:w;@B1=rTCbU*%Bf$:Fg<otPVuHdqR7U)IDUp,Rg-[X#gmE90N>F9kX^6$$4F`qgJNfB
 w>q|Fp^A@oCs@T[ce5x<)FNH^j3x*_C&TQOX77%h[*y$^SXg(i%xuab-m(cvAhi,OY2gae%BmAvmi>%j1*E7hKw7Jo_U$X~g!*@
 L;&Jv~;BlBu/G`;#~_re*U6Im-Nya6*AtcU.uY5J@=beoSzyISxQgL:I;#>:sqn[6[^cuMFcJC[k]nn*u]'NUn|m:%xT'l[jogr
 ci%B?9i,Gp(H='2H)%>iZ7Xz27%>iMMjCc1QB-`oUF9o,1sw;)IuglyNIr[@&`=DaJVfzmRJioeF*HLZ|%IJpFi^z;~6Q!<:!e<
 ja,N^vtHo*?dSS[[)~b@wXG0Pdul?dHg,u[RvNLh>FX`%F+34suetgk%iS.'F[~$KeK<Ou@k?9P$>_6]X#Fe?UW~*?2s=CL3T_z
 GM217n&MkHa|9V*uos.nx^4+cH4E,9jHY[,FY]vtL';hNH:g$/90o!_0^CL|6yOHN,HD/pW!A*8%35vEZWm-BS,F_QcUbJV3h'_
 5mG*8u4=|UcKFiZLNE~R<$h?^s2Mx6mF46<.O-'iz!5LGrgIJ(Wlena)yI;Px+2mI_hb|Z'#C:+3LXEp'j/<=6J6]OU3;bI~+84
 F|>h5vEN(`uySX9U[J%l~ga&8u3n9|(D_F;PE@6`AUt%WEP,t^!y85>S&4E8Kn[BdMC|jezx^0KAI,-Xw_JaT-glxn4vLZO.FFW
 P*=op%;U&|1H0iEiV)$,-9b+Bbq(<<q&KPEHuE7N|#<OS^L@+|Z-kE8~9IZAw`g7IzOf@Bb.|@8bKSQBO~/IrYWL'ebPz>|:6[/
 )*qNqiY-|.kM|b;z8ih/Y?ER/L8tJ2$BqcjsZ+k=<M>(grR,@>e|G+1zm@Ez(DS7K1mMg|b^|i~DjC.C`%SRX@si;3,I$kAC]~#
 sxXSl>^Vf,eaKX>0+B.(t2?:s^*9@nfhBeL%O*<bi9/'#_V0Y_txMWl+#?~vY+Tir)j[v78ZL;o1a-NT_PVG1Wu|qVV8l3DbO]_
 jW4BW%wS3=Vj-~&Dr@@iG%0WmKJ-xz7KtX*r=<;6H&Px'(Ay>(RfELSqsl*vW#T3.=!b/A%4B*hH*4C1n6e0f=]g1p55i7VP&'#
 >LyMIG2@<p!t17M_&D[O~vE`dAR,E|hZ[gYViim6,<=N&dGF_UcwFc).T(+JAXHE;C]Dipm)NDyO|T~|TR@1Z-3(Ej:GjNB-FI;
 )m1NH~kw8A'q[E_*CL]m#Fv5cId&GdC)yz$<NwiKA-s95d&v,_XN.cFJG37c6N!a@Qvw~=hN4#=D3Ok&wrMVVONBcStO@'Tu)7D
 Oq`AK5R^r]wp||MS>)I4.DqrQrje#?dl47z)#BLkDoh(:VXH;8h@XW7NVV*^0Du#cJxlv6#Q,XO-U7qOaY7pC$2Gs'67hDHE`yS
 n?(@&%N>8)F$-6VqqWZ~es1ws%$?2h?@Eq_b9CMWmewKD1+JeuBT8T>rq%GRlr|T6CHZP]_Ym^y9BP?FNbEle=+$V[^dB>JC2@s
 EG$vS9,UJE`nJ53>%:.boIk_]0+@N#n9>rHXWu)/7PG6wFvimW54D*|X]gUH#cvsKDM^a|F|ofYVd)j!89jk+9~SX4VPz[o3E5L
 (:uLUi<XqN,W2)`6BMWE`53V+dm9MJJ]@g195!me3>g-EC-k?o_~^j74d/6=o<wn)qd8BiYutRKE[&E3aECp7mZ5.hXN~gi#P*
 S@)dq7zX)bp;tKTIqrR%A~-f:iwtLuujGXPj4YuKe%9YFBJCUAX=^v6<b9:ADY<<R&]^h^AQ~j7pY[;vl=2?Yv*>*[Z_oLm#V.'
 FR,;?Zb0Arh;C:mr0G!OF[Ohl`-jI&S?!PgB4x2v|*<CM5(UUW+YqX(F#S2_iOkIT`5HNg9&i*U[`XNoyj^Jl1J6N%_AwF2kP_!
 =Yt&s>bYr5FIjOFq|Rce+[/7li5a4t:Ablf]5YL[9T+q;_qoi.?wEMPK@L+om|g6wOf+CGqG1ggw[m9A;_Jzz#>+8WynsOQ[<7h
 sgQ]L%_oCn]w2LRrQj!('<A'1O]j12ZSBqO0eaKz4Dk#'TC~'cc&??cG|bP',Ne~GrlV#+R(eZK~`84Lao+#Mk~!vm90HU95teM
 Wg!e_?6Qw]BLvMtn/w~wOIc.p.hU[xuz`_pZxdsH_?gZg$E_O0f~/0JUb@ht;VG+%LMDH.%n<K(B>*@|3RV4+B1J$MqNItj$r`6
 zZsL%jEQe.$?'gQS(z%4v|<_gBygU59;Ae+nYN(SY44VPK,H2TB]981NDYs>T<5G*6Kx9S1h>Jsc_mHd0#Z5*isaLYjm7dNAB[q
 gb;3la7pZVQlE|Ci::HZn<p7kYaH'>/ITC^ZTj@!nVM&S%zzHx#OU@gk0O;T:;A%n-`RN7!+9Bo)ITg9Ea0VLMPHQz@,SPLF4h[
 n-kY*'ZRqF&T(8Da7<Hm;-E6c1B5?Nj!WbWf#Kmr>=5i=Jq|3H;tex<r3rh*k$dh//I1aNbD.!VHvn,Vk4?^h)o*K:sfG.Ht:Ni
 y-#-iSiMRAwRkAp2.-_m)dO<nOB!e6=hFfyoM=]B|XchHoBE)_8#Mm6$OCKMQ$o2Orl*8Rtu[N17lmF.`sCkyn9:aGe'2V1`nyM
 SwSddMUU!b!j00$Aj+ZmfD-V,yIT)9h``]qe|b)|E*0^l:EpJd!F*1vIzJ@7.@Gbc(]Yn8)sZ<CBG.M4DaAI/?5:+CBg:~J6WqW
 n$RUAa5cJ%</$+.:8[<kK+Ts1q|VFB&^`)A8;<f6F&s$E;`.2XD2*>74f%fR:xhl7q5.Kx>'1DgSTr%XHpFE&udK3csg<tQ!uUj
 !&ASOX76W<GT@:/'E^w]gxp+!fbmF:pkZ1(pj,WWWKD>`@[1!p7VTsI;e9SQM-zJoRjaBz`@<iWyPuaM(69y-|g_wdVn9bdOblk
 fj8y!ip7.3@f,s@%XK|zwBW6ejcD^[mf?Y[gJ[jt9JyeT3Si[JiDK+uWvWIG9^zJm72zIQPRdB[0)a!NF;pUSLJe<nyn@cL/@I:
 yw>Y-C'mocDlI*OQ9fjs(`7p3EpaRG-sf]6Sp8|~iD/)-1u7+Yq<:E~_f-+fn1itj=Vq!6skN;P29VYY>jGDAAsd^|hvJtNR'F&
 8Gq|4]tzLY^61fvx9/`(B2Bu~BZ=/[CQ5#bIUgw2+hso=(W+BIU3B,KnADPOH)!R~&t#:ed,_:!y]&1e@4LFue3:l6eZNiZB0I/
 AC&KU<hS>*CJZ1<XuS=m-^&@P[gOuc?I@YHP%'dn&_WbBv.dfmR$N!;P,vF$m$/Rz9[mE:`%'6:lM|)ZGSW3@<O-NB73p^B>tJo
 *d7^L6-t>f;iY<rZ`FO.n+s`,y]'Swm1@v%O:mCm;zF@/!TR*wn8]%^5,oM-f53OAfKZCv(zBE%13,Y6gayOW.*NLcDY@nw<KZ)
 srh8rrUHXoZNc`w~?^`Ms_Ooo?8/4$m6:Tr>nF!br.lS@d*<)W*g%kNv6MbKL@x03+rKS_hrMZ=fq<<ae2uaX#UFx#.%(n0t-^O
 Xi&V)hIk30rl5b:)W<s2d&SObO4#8S^7jo*=!W=U*xlg-j)mUXBgXn)'6lyFJbLYY?vw[J)Y*tFo)ZA@yHx2JW%-I<QO@,~?r.(
 qa<5d0*Di1AnvyE._RKp@:]~oiw+)<pwNoER!lK(Y@CfE*vIL/;^SF/AITq/%3HoN2^zYPvXE/E[%^UEe@jRPOBX'~fzU(>g8u[
 MmwdWF0fk&jl`iK3OfWkjpn+?uvLKu_:^&^G~bnre|u5!o:cE1V~:>rmB]*S??bQ~~O=yGRAMO-KH=IxttR'P&;@-:0P+^)b9u+
 :s~Kf;'M#H]P+FeBORWK,`Q~vg=|3TL2X]F$XZn4F&40%Gu]_iZ0Wn*wE]4Ke/F4`A[!p<_xD.=ty>CMx:z/b+'U|SyK_PrRVg_
 .i3hadB;L-$<~)iZ9Y|>o3Pk%)&<X>]tU.YR:)lt6b*7?;v#=e,(%K1;CbDxCe2;ZZVMN6_qa[GR3SLBfRUDGWADi1rFk)g-H,/
 h.vrW?~1S%R6:t<|~wU]?:#>O|vI@ia#H_Cei'6x=K)rkVXR6qD?GF<tzr5UWKk3>JjmzE?.`~6|oMA[(sp3^M%]+?D*9>XWRL_
 [vACqiD^w67$?:)?]+W&IqTexu=9M=WVRWr1W02,E3rU$ER#hs2fE$IzdR9ZDhbm`*&%eBh-^Vf+6(I3,8JUO^WObo_h:Q62=MS
 &yE?!|[f/c3+]ao0!^@691+$mxmQJp[wx`/rCPR[7CbD&[|~_F|/ixa][%Krm,m.$TP<q'3@&UqdO`w91l/eckHx9OgVeq(h6(H
 3!SGXAD=>;t%dW(SwmsDT0rX01VRD2];?O*PMuXk@YxgsCXM4cGP827.|$se:F^&?extq,g7P2Rg&6pkG4-9@rKgy_az0!`%!+
 i#fPQsy`*WO^dZL.2w[riMI:%.9EED,GV24ki28fwS3sk=Ki%nno3,l'@.54a!KFOw2-EWk.`Lk:[l/z%zB`i4fA@:VrY/H%<|)
 H,1,y~gpK1?5Kp|sw.FmhQedNv4jqg|,dJ]VzmANJmF9-`H;N+f.[7z!P]awP1*#E)Dtow:/bSh|`9md-t/4Dd*,(371d6Eg$e`
 )^sIY!B_h<Zx*Ky@2w//]di49a'fdF^)OyP^2kspVm)f/gtAL6s'*)q7W%s(?D~Gz.r#J0d7?<W.xKp$-3X2=B[XnK[bm24Im6h
 w$U!)0M._O)9g~tyfg%0E`?CJ/|_~`px%Xzv.C?0NLa$Sb3w_IkL9'HpTb*~xW/Xq@q/e;Fy[XE/8RfVw8V,_ASKW9b41BLo?:.
 Hfz|6^[iBN=31jy5/t0+>v_pj4.MLV]%u-qW1]*/=eOe.4rhGYJ+=kA95<r-,fU)a)HDca&eAgTk8=~_1Iv3OT[X2[=Or0!mgQT
 `JF3rE5u%917FZ+x>:R%d9;Mh>g=()irp([OG#=etCTLGMF2ROz_(xgnC7%,!]6=Fy5xca`/)exL*Q`*2jj@ssi>!)38Ma|=R%,
 ;%@k/$W%J#9oB!z'QxZ7gZxS~RDW36@ip=^CU-Eb9gorB|jPHHN"

end DroidAudit.Text.Charset
