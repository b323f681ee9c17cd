import DroidAudit.Text.Charset.Grid

/-! Characters of Big5 and of its Hong Kong supplement. A row belongs to a first byte; its columns
are the second bytes from 0x40 to 0x7e and from 0xa1 on. -/
namespace DroidAudit.Text.Charset

def big5 : Grid :=
  .ofPacked 0xa1 157 89 "
 !!*>dI:Zz*#IM0@pfxP[]GXTAPNPK%a[:-!5UgA0o-Ls_QH>s77xXdQ#)4QFSQK!#.'UzsQm<_tYzI`qhrF7(`&Vo$K^[GdWB[
 2/+6YnHKQ~R47Q^55~+Rll(sL,<j0t-:JdSG0*J!rsY5C!Hytf@|zkGPxG9;:%i~w$EoZl>md9k&]r4f6eav2n,mf|bamac[7kx
 ?n/ZPcYGf+g]EgQg3S(Ntf-00-6ym;u]uL&vGT*k1^/%l-?f^,VBK~'P1^)F2*+%OUTgaQm6iN/:L.?Vv[$PjXhS)xz$DcioA['
 %SEkTEcv7a-lum_Mo)QVKcrrNN>//CCfRg'JjNuT`>qd*u;|(DI^dZ+LWv32KY@zaCvH+ke`F.he0(qTHsM|SjN*Q%s]*?Ke:cX
 =hux/e+PKgY$g:Gpd!x1$=Bk4)f$=ED>4B-/^p_@t?Kek^ha(*_EdywY>mrG,W0!:!`1'>r&F]8:X8kZ~sFif/ZrA0nqB7cg!Es
 oM!;pP#M)l0D:y]*Gd@RuPmJLw.LSJ'&=tFVZ`q)cHJQ26O4Zpi6TkFY,K<d7z6X[z9.Dl)TM2RRKA$PfOb!P<>D;]~H|YY74Gb
 2OCHj~VA*3g/od*n2j1P5Wz.]-4QeL?1)LD,M<w*pP0y'YgE_]%H~)BsEKWBDMPY<Fhi:Cdr2K~r+Zz+#Aro~nJ+gXycXt!=70a
 ~'ry|`/5[S^J/G8@jU3&W>0:nPT:P6+~ZV)>)6~pC.I)*X34/v1R9NjBhN^'9>7j3Y>!w%z_A$%-I.nc*9c!Yen#FS(bLiz9`;]
 2$=Z8nn%S<(v8M<z+FdK~_&Qn^jg=^mI9xf]g;jQLM):9GvPmQ+A()y8W^YM6$RAIUfYVaaV?A?;J!E*5uTHG|`7zpE_0K5)[X;
 (^a3@aEZ2CnA:_tu!_[fXs`VoGwy^+|Q`.`0j!Xj>#(_^Ds_xHK!S40<<sdX2d~<c6g:]a4x$o?Wbj7|@[HkdISu5U0%XV!dsP`
 Mym5OL&LnKaRC=UPm$bYieC`J4`1U*%rmil3Elu=5>>>eDKa[''l)VQVH)~1Ej;+%hO<K1)W<#GbK4eC2p]%%c@w4'^-3roVx)=
 1rv%Se[iaO4~-S0676Hp~Im[uLx+`97khQY~&]a$Qc['O3!&Lt[JA_$7@YE08Ap>w(^=Qimp)ym#JsTSQI|N]Mo[c,#QB)O$93F
 b7sk#FA/mP8PK2=$LK1zi@o(wRGp1.zSAngX;GsuZ59g%*eb>n#,O]-$W-L)k5!dkZxc4%Al&Fl%L:@uWqAvB2#n;9o8:v1%rc`
 *|uHeG85?+;sHeA0SKnxUZxXv~>2IO]d*N&)~Yg0g]cfvd*L%x_WP9bc#'3OjysmRrzEo!n$B0Uhq$;HT,l':cVPZ,lcB()HC_H
 Ka3Q<?|:@yFDh9<:NF)[2;&#[fZPe2ztFY00!**n~>/=VfVCNqdaFp/7<h8F_q_n^iJi.PWo>dBZWl|hXS;:zJ4;g@2MhkZw@K_
 (POUm/xB+4_8*E`Ty8(Jo]|J-<elhS?Xka`9tOAWmV)9!T.nQ;75nwdzAkRr0S.d,5`4Cf<G5SO>2#(nu&':WG0/!Z)(F#j_!(O
 vRnwr_4uk:=tgO('WVVDi)FXG`9c0NJaf^j?hbtbk9.SG/krZsewnw-iV=r'o=n@n<f|G3m$Hz=2fEuw+2a6tvbG'tP7Q9Wlr%c
 a,k0T6nk2,x3?lk'T[0Nr(`2+<Y&_5L~6WxxP@`pHls2K)OK@JN:c2O@y+*0,e_o)R.QPWLNftJE'^/F:b;hrJUNI?S=FzuBEge
 I;%<V>GmwloBuzAp6U.ipp4MHK/Lbb'/r&'(?@,x|'e9;j+EsB;_785~,^&NTI[FX'r3IzuYBL*S:9CdeoqDi!8_amsxW/0SVLk
 [WmzN<k?St5RoY.b2$AVbF#deQSF~]gRiOdJk1l'&[$&&N]Uz4(*G6cH64/v%226qcH^mu?MzK0bl,d*;Ga[K21PL2`Z1g^b!Pk
 !S=gXhvoi?GraPa50Cov|YH9fU@AOl'ur&65TRdK@q&I!96>mSbV[@,w`aO/mWs~elh]VYsG.Yr1#i'<9H@uj%+8$Ui'=C167&T
 o3'+p4i3(3My./rUO693XH[~]!)J:zEV5KPNL4Wlt.v)ajgoC$.;9B:NavK-m9xP7;*Uvq`PrAir*x*,,z<dBBw,$!7Id(^GwHq
 *X_9ZNrK!/g??$Ld~KhTbHE>=!]lZ3CtDf|:TQ)zN6k[3U8oa`3YBK2n5%+_P[UFVBhNti-Yc#P)BVu6V~Q?k>:`d=>VY)O8Xnx
 bF,xbtO/d0tU'!WA20w?#c;]Oh|=i|b91+^!XaV7.NF/y15an5X5Y4E,!mGVpFO#-O)jjbplisei6$R_8eg.%SGG&4Rn.v-P|Ca
 ^iPR*+P?pZu[h_Sm*QM83kBp~f2$*k*ah%apg6[0[mC[<!foH%V$1RBN@zm=a1Y*-*A,sm/_)?EO_/S?y,#j`B[)Qt)_-*);u]2
 ^)SD[F9Ce.jgs78;u]EE/&gQQ8W?!-(W-s~C&B)=P;9Qqtg|]2-Ra;J^vZVKu<=!jU8a]F9Xa+2*uMmSLrs)pZ45GJ2s+%S2xa/
 tW9'JO%hD)QsoYg.[A]PA.FNh3h;E/w3_o8RfTRIQXii2OY(A4?1;(DMR$>cIycEi=+=W6Ll])Ug&s.mb)byUaSi3:pV`.%0!HJ
 8t`xYj^#.)skd>$m(;oA*$2:2avGGBc8,WxxR7Qo>G3+h(XeL]OkY,U7YN6qelx<:Ml%!s_i(fm:oPk'M+qbi?tIFqM@14e>BHm
 R*u*AE!wP0&bPIh>wqqiCl2x@YaCyf.^wGE6~SIY[3g62[j_%rqLbl.Ldey'N_I]3fe>Z9^e$yVq3fB.+)+yG>A7aUp4aGmjqA2
 KI5Mj[M26lcMW^8Wj|PU#wUfF.WBX)aFt[4w$O!M8pEQ2pV|hSp6da@,ANz%_#-=Os^I%eO5Bn8c*dq;-!!iUdZJ^vX-v-U;uGf
 !)vq;OQ439zzX<mU%*uDbO$t(Z4J+ZD$BZPp#<F3FVe,E4p3:*,JNvV(+Q%<f#G$yw;L6~hXdRM$h%a>jDkh'=9?+[1C5!+A~&_
 TJv3/$[`MT~r<<6w4b|DOo:h^cl|%>mo4QOGh-o#Gm7d0n=wbt!$NL|wQlQ'j>.&66=88[|_Ub(3+7K+``89/~&U~UMm_Tv+56&
 ;>v(K~Edr;~[4B`*cPQg?KKtRWT4)u`mVCXztcd8&'/nq<T<=+'E<e]PNC==E&4snJNg>tT2Ae?E&QKc7@0H$J~`I?R|AQlxM^.
 !X|Lp~PEF4T:qSSu:#`U?9D]1(a):/<b|???:-ySeg1|?w53|M[*T%EgV!-rkph~<m,!)H*b+P(X;x_-<.[L#vKZd]h]L/*7<,Q
 `0>En|`nk_.o<AI0Tvk~u2N1oqb~7Lh9+|13E0z|z^i+.8$uH-*7=t=>tnUyoSi48^P)i+4t3:+ef!9_pfkS43h;~U~?`Tc>:6X
 xT~;$3g4>iG2ep3[5VDo])KlQ`sltRB8cu#ra~Y7YwPcSE%VYmt@ufNe#VyRCY[,JZsZy?$r|fh2a|/`Tn93=]-GV7L&mP^Zf=f
 Q;:(r7.*u?(n'^-Bje?os+2uN3k~=l*#1M<+<z[+x%+ZQI*:mbQz%#vf)fRF+1eIw>4JU<T|=YcOsK/ZYs-cbX`:AHiR_MybHR3
 EQ.%i56@DJ|vhJCt45$8j5|15q1WcLM-O_Y0^,/<Cly$:Fo>YcLKG2,5`^#:te!;;'bo:nzV|'is.AV;=T+xJYBEd*%LdXKDm,v
 21K[,9w<+I*=]Vu+*0ULn,,!t=YsOP2Qc#Bq^e[/Dw6j_P*d)^!3n1AZ_D$#AJY8kS|Y%JO1n-MLA2Pun9*$2rq(<tWMAel!t%|
 |=34hSTglFDjTl[,%z<ypTT`NOOCaH3Q4#i$ro|C'MLe9TV'L?|~m!GAN#h.-Q[<OUsYyIt0JzjdLz08&$r=bc7.b=[EAlS'.pn
 Ts+!gO/ZkFVJV:==*<il~vl>rUKhryL9H1=Z9oc*j%ij(rcOe@FTj'dr?$%<L1SV..([/HaJzPXIl_.x|pi=]G#7$G#h5Pfg7l:
 QF(_J+?Jk07X)3;.^dVj?Nuw^Q|P~M'wK4u`re%mRamfER9gH!RMHME1&%Wt>3C[eW)aT3DM5@<3E97dQp$^mw2/j%VNR,A'_<Q
 GUtQ8y:J[Nw>:`'OHEXBeTbc~`HGE[^`T5)CG9KWe7:U/u&eX@xE5k>a~>UqY+hhS1,^i/VcqOmw]:V:,bPK:?aY>ySn0]wi/Y,
 mFEjP^rGCxEq+ovhshFLErOsg?>QKdecMnc;:ZLVQs2xw;(5B9udG#R`sB!,9WZw$,Qq$Hd1/ud6C&ZGXI^r~5G<x06UOf;]gi$
 ?Av6UIV,m)s4Xehu@Vpo02g;~!Eftx%`@igch$0Ja=>IPje0*mN.1:pQ|e3_r+?pW|NV='R09I2p$U++QAv*$=|LaN~WhYZl(:<
 5X(g+21h~ho]y,O@11$a8?~%zV]&%[JiA`]57e,/I2OC9N`P-p4&%<~R#2)rCD(Pp/~GV$HsQsQM-MUY@@4%)W/+f6DhXZ)Fgq?
 Wj0:5h%JX|JJcPf1f10RaeVSr?(M.<x[65qGI.i,HV:(pZf[|+2-=v]Y*>|]*l#0:8^V3`Ys8-Tw9^7U']Z^U#:>5BA^j@9nU8^
 ur!#]WV'`gAc5$if*!T^rWB1^2?]J>e>>]36<>FV;QmDE2J8W)**K$^z,YXRdBMI;&<u61QY4Z9,[]WlK>E6NNmazQ@~mjh;4.[
 _j7-gOTe)y$HwK@p`f0xIOUb.qc4~CSvEB`*?,h(Xyq&JXR~3PTqyE.UH!a#r/8cJ-?:/&1l]Oux<x~PO<GE_3RT-E=KUrP[Tyt
 :B&My>i7&uZ^NP<w^UFAln+=jTJBinH&1,9,KrNsmW%+m(&]eX)$-e5?Lw9-pHoI/t^V'xT#cO?VE(WhKiyw&?kr!fAR^A[5P)v
 yn|6~+~fB$c.1-E6??:uR12;V!wHI4H]G|6KjEQOnzhbT?@1D,U?bOwVMHq.d).TfuzXAjZ7b2/r7-E&<zMF]2**=p*X=CVn.IG
 [Tr<3FCdzw>^mP_J%5z6iD4|[)lrU25Nu6%&,8;`0Gc_?/bXVr-JEo?/q)OGUj`K+3Ys!P>4x,5sdrp?jR*P2+dSpNm=0rF`uI|
 N6/Ok1ErS7X[aAz3H&^.xupfurbRb-XFp'JPt=Mug;vJQ0(OQx'YgKG;';:rs[>LH$m<p?/OSEx!8gf7Io2n.#pFw+$]wFg1iWj
 b*1N*]o0,;#Hn1EM.s)!~.*HI.95+u_[;kk>!mq:XaT=.7;Zfcb4DRV:<_Ly-dUb$7nLB>aT@-Gudc-fma1F[,F![uMlcLi,:]$
 [1xC1+=~bxY1Ec)!-HL'A2MTQt2%)fW?h0us^4z2!MGZLRwZg10pK+6z$~sG^(=33.[*9']S,H`j7D-0'3+$$bIDuXvo=.R8yj.
 Y&,#rPs2iCkzfMIaVb=(S2$S4tUNHYB-LO9:e%lZ9v@33O`+<8TCe'R%RUFLt97CA]@+*JDyh]%@24>LYXY4TG0zcwOp/z$~f%3
 jipvMp-VlQm'N.E6D%W&/^*6YRJF%1K6;yS%mF3r4lcI:J`'_%9@Ig%yzjtyFI5h?Q_?EJK-:E[NfbzVFT8HV)KI@)B=JyUmb`l
 WE_J`!y,aF/JxhD?+a5'_UV[w&<W![f#@(%gmbcnQx$AexQ/~,OoMW?wKkw]-1!sISdn;j*Y33+s(Na]-E&2gOl1yA;L9j!Yl%T
 F&58V6Ue^nl75ixK4]8R=hTi|8.ezx`<dw,?:jN/_KhobfF>`1_>h&~e&:XIE0LYgQ%=,udB5*BVMlXC>TpdtqChn)bq3SLXiHX
 PbC)c?NY?+@x]1/?_2=OKA`m?j`?SS%kS;kf[4XyL.8`k/z1yF@#mgQ/pt%f:A2M?pbTY$a&WbX`d=n]N`!SsD1:SR29~?6Q@;K
 '*+Cf]Q,A#6#.|(ZfnC:/0~xA1ySj8.EW(NZ<*zgYBaVxM@Fh`K-v>$4qD~Jwv^[gs~^gqSP>~_4`4P**HnCI:a~VF%wFciR%'<
 V=[D*m|87U?nQK_FF|<Xe<&10H2DmpWFVS>^#lnjfV%QYlnlU$`=ZEJIbqM/IG/Pm]GJ9Uoo*#*(c%&aL7iK=eW,E]slk]@D>nu
 rcXR$_K5yI!YLGHj>!EA,XbggRof8?S2M15a/V6`c/GTdv5P.rPffdz]l[K|rt8J<!f^#Ngf't@C1=*h$_xsg8J%a4YshkI_<PT
 y^)Ayqec.Uq#`2g)>[l<tj**XjB.Eok6Zf._&nk5;pt#xE<>Kn|5f)yRUPtIu'wY>$(D5Ly*BnYj4.:Gr)8XC$g?U-;=.?I?D]#
 !^%H%ZyVZ)_%)*j~vqw/Z[o5A~is$|!v!<g''TFa5Ng3HjF0A.gN5L<`~oSfwx?2s:fJ`eGQi7D|gbo.^6OVGqXj=</7K<|5r.b
 .n7+7)b5R66ab)=YGN@9kh%.M%2o5Oef.g)yvq'bGnJm`D/Y!fiIV?=`*%cup5k5rn9Z_5Kpw`VE816c/i|:,!KT6p5Tj&~3gR5
 ,@D`!$M3;9#+@wbwq4P$_O,AHZ~DR,A;_sFC>Omu=0UXNZfQog@dyf(b2+;=N/4iYa1p8N:Qq^,d_-XTgiIbv,-5ws=P[a]K,j
 &/#eqDT1(|NA'@P/Q1JCY=&8?/]7&?tO`G>vZH=9?b1cp7Uc]oH4fulD&3&KdH~/!0]pKM)Ja`ne7e@KA`5(g[ujD?|3Cz3y^[[
 zL`$Q%xx~MH(sr~DmWJd3^TTk|#HKx6XID6um^yg#=9_$nQ?Zbc+#Rk6,#!!Ewn2O%y;X`?QS0ODC/K@!JE#6Z+'9As#%uSB;Er
 r&YqFt[xzt|/NXh3[H=A+Oy&KwCz:/[v2@mZ~[Xww;*1V<I^BsRS.<nta@m=we|@cI*NpI!Z:kx2>_Qv-aj$$#(g,>XKVsp5cLc
 X,?BlrQ>.Kpv(O0ePDHB!1F=P07I<cx+RpkTF6Q>4:zbI:;ouF!oh:?NnT[LzNNqv16WssY5|^188zu-VuL(HfWtAeA-zt3n';D
 e4z1(S+2&6><xHI)5Ib.9A:KCJiK3V`m(19.Fmc--%-qL&t7D%?WQIc6tr!JX$|vp6Q'sn1+[:@&OnsX,q9/eM2Ps5$$fYAiSKU
 Grpf>0|^;Z0ML/i,FamjPx*LOw-YuF+[[,fXMRWc=IU*/<[OQy+C.7A>@_)agzGWNXt~i&1>)dLXtI^&v&)]?s!b[r^UkF8ET5Q
 z!yW-KkB4c;N)S/ju_euLnU9$|9T,Y2F7;l:|zgMQ5;[OdN/J$,w]K81bBrd#P7$Kzo.06V/P0J!-PlO;N(=3TILMD&Q$d-v]^v
 (s:1?G5*7eBvUbN!-LN0lY9uCc4*j<kYl[F4pKj9jO~)pEAa2uvx6cY61t3<xy4),4/z3^0;A=MWgg+8YW_xNGN:d?`8(-/Z&PK
 FC'B$(-.)i/cM;6-MPWc|4jV4jw>_1q5>WD7nW_nllUnlGS+7+`-6?U.=[f7RHHOVrAWsu!GBoa^x-JrYO-w'aO+a$21GG9,y/J
 =+7LO-ff#m^]|>ve8ACN`mm|DD~,Pq/l3|O=<H%cM0|rs,HbH||*2BQ$[cEIPdAvLv?sS[d|'1c.W%j58-]qavN*IlUQDKF_r$P
 Sw,zhd@b|b?h#ywVJk.ixeG'Oclvuj,>770pS7)d;t31feA43pL%CN~8b?bQZ/%hF0]%m>gu;xAin8kMSp6V.%V]1DM!TZX%rwq
 ^,t?WB%`*hjQI65`dbztB*:=q]p;23yS'1!_dccWxi.I?yMHZ(SQaD5M,t3ECcc<#N?6rOZW1K!ciu;6'#zC0nFxGQs!)tJ,.].
 k)E,;52?q>U-0C/'p:22nW)zxP#AgMFyCK;Z]T=[GOQ_#,'Bm3LMSVpUU`dB^H$k,%J`|&Bw?luWO':yGn3Lr*@'Uv[8hrZf&wV
 cV:yH:Z9HhKh`OK!&z2jH1@vm7je`/gw]tDq?`mXzAEH!1O(fx:okW,[G^df8E/x3`]PXfQru*rio%F*?+aaxnzrnvAqNYt`w[=
 QpAQ$>$B-N/Qs-*U#e?~sw5^T-^pE.QP?vmXlXGjMUcNsMI15=&a*a@EGF$wk9Lh,Qh(9Y+J39ELP^Zq]m%'S&mqI_QtZwf;oG+
 Iz2!M8vOQ]a=OY@-th.8L=eBOoE4hO]k%r6U4d!Px'A[W`>lNpV'<%oe(?tYIPl+HG%Xr8'2d%iJ:rHNkJQ_@*U$aq3HTaj(RTN
 ^]>DX9(W)d7k`7=Q0+Faxl:r2i=3w.4PVY#6;X<tp=ePSDPlVXXQ4:&e.YrPjK7#'vbsb)ZXa=|ck5&]5v)d-q&MMy6L=?7i.*h
 +GVL6*<P?(=t|ufJ!TBJ@2PaJ9z=yf'&8!acSuUjn@n9E8b`KwYLTGfP+%M7s*-*r(-0Qswh?o<)FmTC8e)bbSX;19aFP1L^r.j
 &~tmLMbq4sByXyR.@?Z=w''ws_q4EYI<10l]K?-b->+OA3<aD1<g()<@bwELoPawVXD(,P.KH5V.)[NKA@@d@USTZ7I2PXQ%j+^
 h2N.:u[(?>#8^0dw_)v&iVH5zHfA!U1%|7I,pL[+`1+$uD9~1nd-C%_`^U`_4_x%AAov/z=K]D(c=(7@1wjl/EGN<M;)SI~^g,
 :-ya3n]ic#SfPWAP_zZ.+!8YbSXvPX3OvFrnSIXQ_@c.MVLa,6uQIk(4-x'#ARo/!Gn3Qf:=:wA-&L4gn(YjDo1YbQ$>$:Ba#:[
 SKy)i8KUZTx=xasgx*:(xw6f.`3ABBR[sv&?B#C&,M)(nGr>Je]VPd/L8%L#]~yUF8aHMW.t_wHH5&tfnaEyB<]4a)4U-jvmIV`
 *B+#$SD7ys:Tj!%Ym'w|bDpqlUe4_a9%1?kKwjS$l3xj`=W*4W'U0lg%[Sd<UiKL;|9heuR/bjn-FGaHJ8[s*v1ebv,h(O.L&]W
 rQ3(kpG[H'A,fM|$v0%.=HynH+x($Rw%#'B&b=]3pUgQ%J@#sP/zi7Isti@VX<M!VeX#xcX$mp['EFYi-&gSuTcv:f.aOYOYj^,
 D5z6w$G+@Mn@Xt1.,|#MA|+|8cd~X0.4<daBqG6@v/l[2`I.wf1G^e/Q!56?pU?~C(+eDKuiQ?`-C*LH49q,@Xn:(Q#5)<~edd]
 ]F].yg[<xCdolQQDcD1oe0G+b~[>3]%l:P&D~Y=8Vr3?OX%6oN_I,^^r6*9.8/wz@UQ!9CqSPc]bPS)F=CkBj6nwb|3D61KEC#g
 `FAj(h9w5W>'Rc^KqX>GG9U/C,$FxwydH:'24CiS)g_fl5#Q;bi.Nz$SGiPy:TMq3*sZGHjZ:W.pk^h[HpkkqY8?3q>[|oEB>$T
 W@%KDRU`]5Twv1<9nG'.E(k;~sEHFI9=/;'b$35=k|#92!W,!kCH$r0-YfUZ'X*O*Us@y'sG%*3rV,3X7OWdDJn:7j>|?%TflL
 $#`Y1C9):k=!+,LzNTnD?oGyI%`(aJm*vbZ>;_'Eq$hhkj`~Lc*w6]sLlmVf1?/:r[2Y/gH`NpG?D]nR~Lhc<QW=1`mdK,p^4>.
 =]r9kvL`l,[sJ+_'|>&E`29X%@.y*YCbcrO_=hLVXB>DtoQ3>=I2nB$-yO6p/r'[YU:nQEEcLQ)oikN%-vOLik?(l7Q(h)>&vf1
 AnVh~uoq<>yTH&BN.U:X_y/4VsH/5p,2@qj.W%@5a-kAy2*Z,5G&u8fW]pb-%>xk]Ai?@XfGO,TyF%wI)T6*K7`yCi^,e^U9|es
 W1g)>[qK-%qre]V_c|_O)7dA(90@9Qx==+<*HiYU~R|<;.0?rp%<!eZw;hWs02DBG&l@<TBy8YNf106pOX7ZOK20!G)H>*ZBF@J
 ^/c^Y+uzyfAmlLNV=JWZ;GqySJr*bog1ZY73U1w+`T#]Isb5Qe8J!OWC'+:e?qz6P)&'Gpus*8DQ&',nZ%)b9f)S<*ptxU?+!p)
 <%i-Gdt(:Zccs|4wehq_&Yb#.YhT_[ZyZ)dC]5]WNyA`q5?#[(Z^+t0|)]d!)Yy[I@0pG:Z4(>P^P/)PGHZgau-,^Li<CFJ8Xj$
 C6^<[DPw`5Z:`AFK@1zP2y*HWHsv:~n5,AG@Xqv29taD''alXL!SsGVONp=aFksO,V585=aV1'`ie'5^'t$Pj!yIZ&my$wd~y/<
 ~C-0@C>IotiK90Y!=?*TM=*0SK#s)7M?ATWWOJ~h|!3MNSem=dr'uN5J~$dJuXK:?w4BX,WiCLmG$tJ)in5B#(rf[&yhRM$Qj]9
 o6,,mxbZz'pKSX;3QM>ZLE]xIPwi!+^x+57&Fq`h=*P'$^ch4-=nLFL+H`(iyV4M47LN.Oo0QW$3VEOzeALg%MS)vy6<rID$.90
 o,e[>Dc^_rHGaz2XsdDf'C?uOp3fbAcS.E2!/|4B80>?Co2/FWo@^z$lIHKA9hcU;LP|lGCo+s8'2oWfT5'mfD5Akqso.Y%MA~U
 eYLM'0o)GI6`>gCeN2j(t/tF*$g4<$KE.CbD;arm)DhpUk^&6V*S%HfF.+RU_6Cs+=mB(S]o![';511dc*//YAC3bbg&tzhhHzO
 Vt%OE;Byy='1II+sqRf_OoD./3N@Qu`NO,JA'~(#fxMxa:QP~`=B>mVB6]yUj&/%H+yRCp.<B2h45RaAa.s^ARY%54**~G,[aW5
 RZN(jwG/DC2w|Hxl^z2Y6Es-a%AD95fo?b0XL,Wj.S+RZmj_*/[Z)rmFabF*Z1K,szqZ~'U#3;W0A]oUAD+R>JQ1Pc6loI^&wQQ
 WU9nSosKqo)Ioisk?#_0?'bk$VdZ@1U!.3[S5j=FT&;i*78(|lLLF:g0@wqG2*$Qc/;pL@D[z%5~N[dA'WIeDbYo?0M(*R0Y_88
 p-$A'Qz8il'a>%MNj^^-ir^+|U;^R6+1C<Lgu5/!8|'9(;2-67YoYSrT>1c;r#(b,;Y_#T.J=*2b5k(06sWnnsvb;#jEyd3;hM[
 (A.t,S+5Vhqb?D6v(uhX>h>,Bn_H@=v=UBP3E9[6Y[(#84j,dVgAf6)dM63qvS+$m>|EFvWU0qvPZS|,*35E.Y]i`75t)WCpEI'
 :K|Vi&gTUmXyL^Cant~8gC`:%tvGHB&EU$!K+ctRA~^g1vxpbYnwl;lVtRv>*Plnt',.g?enmtutT[@U*YD8er.@orgIEf4=gl
 !@Exff1bS2Cc`z8CE^p~ha@e]K,~YC~`#VIrN-y>EMx'`DL;'<(`__j7`:YvXp'Rn8x(F63JkjeoD,'Jrs5IjUXV.Yc4:e6|yl;
 inU5wl!Hnn,Ec_)l+v&WWn?#|.plAUh.MwJtXD_^A-PjV0F?`w:]U;@Feg+/Jj=vH(J6hz$(?QFfw&oiWJFle>/!XL|huK3fMY8
 PmwW5hQshz'othWI?$W2gl++?(GerF_nn`u8YTdQgq;*1UxX(/GV[CxoH;/S+VM/|:ON|MB8ipJq.'gSg;.p.)iy16K`tFh'yzV
 AO&LZcUt-4q(AW+*red<SeI1S*B(@yr?~0G/>Qfo)7:)52=X[96|!T~@h;~*jVQ).&fXMOZnbgAyl2;|i8|)Q,N(&hHmm(lqC@2
 c7;s:JsJ-HuNo]eR7fTt1BHdUc~mf@=!eFq.HhZWh<`OW/J]^+BL7<'hiq3c!Yc9<t+jP5~_]s?k7n]US1G/JNU<u-^y6^Jsr>
 p#T~]n4CS~;Z'AS7f4$Nu-9v:qo/@WXcJ[@C@;Njce68nSryz@!7*W79Z'L)>24wA`:qZNtwwz!ib4$y</=H4_lsTSbYU|Uu~X1
 >krRjNW?hcljQs2S'HM1ua'kOI^l5aSAnc?`a#q5#YTaa'YdXox-D3)WpMK&QYr-wP$5Gr(p80NZ2B3>7N>APP9Qdu*f/wn/>bf
 VH.(iM,nRCwcEX]lcoF7X/Q!UQCfBuJE)#TQ2g2_VLoP=tabi&`wFGc314cns~>LU/s-n$1KmDJY2Ka=[n7q~M6=g6Gw16)ZR#I
 lV=L#U#CI#lh((7VQ%sJk5'tLWu3f'gACc%CYqJn|=x7#,N+]&|N9MTcQFKz7yA<]Mf/$Zs<w7cg:DYdl:BwYNeakK(/sDLA],k
 1bPHh/s27EU0y>s~UJPlL;4DGQRn8(Ge[@XnXJoT'|,#_5('27)`?Hr<.C/gKm'F6fX|^=Yy2~5;7V1T:Xy#.GSHv]SD7U]hm
 l-->t^(@k*.~a[6f@jnftCS?;?<(-C4ov<O@015?*cPl5|-#$O^Q-0?Qlw&vy(`Z5Ce|ggvvuVB(*NTEo@5EQt]7c%[Zqb$1Tkv
 oK@/[$dm/o_U<8rhE>/e&1YS_,0zgw*zQV,RK^0N#1=rYo6y]yQr6_+q:|!xRR^i!/Mu(wY5WUQHfEmAD|dAs5%&N7Y>2]iI$z&
 xWv*4996*M0S9P]6:j8ZRYOGh2#9tRlJp7G.u|F?q>0ahh9tPIC(V[jxOo-`1?7?0!b5IHG^zx9d8Fd_,(p,*:O?!+q4vqE~qxZ
 )o1a1y53_28vfl-eGbE.*WmVP2c=8_6T_:nB<ESp-<X2&S4Z1MVVPW^NG%#peF]Q3dW8=nX3C]':G#WlVsaxfw8!_f/I'|c'Fi-
 O14GKEK$^._^QV(dL&-T8+G9U[@/)!,i&$x9l=l1NjyrT,a]p4hxT(jx6ce7yl%G=vcR%h=T4KSX1:SU/iA8WY=mw4uH#;/PKOM
 u`VCcJW4/9j~62#T(|lOn#P,fS0_Hg!p|5NHmZfeux(&)f5uxQ&Y4mjDTG+klXgM!&kFtfnR!HY$>58]x1!ki;??b.F[/^BJF=j
 Gj;Ig*`WVTrH#tZyRs!X=b~1~e/G6A,sd_xVXa`+#M5AN68GtB4?r`Hs5WG:YR$LJDqh.T8v_3X'CuJq+'[9-$<ndL~1tm|18ZQ
 ?i1o`;_?s,*ynvjB;+e['v`RsI^:]p@Ik^i+h$y]aYkucu!Qu63tlR^KyW9giL;LhE2J+n13.@3HDK>T%Jmco<n*h)^4FAuL~Nc
 +$YZlT^&N9$X0VK7ToVm:spdMY(gjW6bP|x]?Lz*)WpCa;sl3/+S'`/-#hT]yjp]$p|gVR4fXSWc<+u4s-0VMo7SEP'Q0P:J.~l
 Atq|[s7:w5XFd,2h*JfodQPrhPgT=t:99JY/!k+=HkXmLRbH(/F:|Mh2:H?hFUyIAp(B;tek0*!HYT6IQtFv;i*v6zFncU/gAW6
 83i<h+w_?w/ME/_EZHwN`3v2u6k)c*+WeBqL+E?Fr=&wYu`9>z~m[-OI]fS&9Zg~uawi4^kE_?[W=HFazf]7W1f.]2z3bzP,@rm
 jE5ih^Hu7JW[!ApYqj*L9irXQ*PkKA%*=zEz-|by9p6ev#cITX.-BJDvh=/$jTM$4I|XB4B,7s:qUU~[nj~h*Xq'9qrcasqE]Z#
 8xJ?v'8&Km/LAM+]`|O!PoK5l@scX5zv5oT-X#&HcdR~-O)O=&Ik>93W/!zfES2=ad@DOsc|@xm~?h/K-?+8zIK9Xm1ciTV8U]+
 ,k69>y!t*X$EWoOu?:yy#|LahU'jR_Dqy3+'Yb3Be>YC'M,dz;5rv_oi/.`]Kz3Z->:=D%o.v;GE+@aV%^g[)^Ob6kCUH&m:'v3
 5w1-K^e&_PzXXs/|qmO%TJ-^wlY%K<t>pQ&,M5_;/w:iPsN-v:.&j%fIvi3s(XOyn%iN%g(U]EzPMOb&ynn4BU]L^Y<g-A2]Tn%
 b^b,GufJ)K;'YhS$T&79Qe.I>6-fxtnT*Zmr7K>Ty`#WnYQEeVuYALOX?K$mH$HRJWS,V99jWtUJXsS@h/uE$^1-9wk#T4ZXnaE
 PxpZj>v6T1MA_06pIZw?Z$NcK0hEBqDSD?*Y.&PfQCddLPx]nwqFM45J[_YO?w?K>b4>r&rbdKB^]$K(cpIiK6>75kG.hbc*T,t
 ,M?nzMr5(DlV1kh;=S2^H6~Be44F|(S`'Mwic5`'j)OX8E)a7_H?ef;-G8B,V^g!f3rxv^(r_S9YGcLLvdGS?J9r+dP<e/2W7z,
 ur6gKuk8&/[Wcx$SF@kpI|Wl3ga.!)PrS1*W;S~Ki9'fYQIpsxF_RDC$RCMso*5.I!b*|OM`Qc4iv>iC'/nrW.r&a;ga7F1#s3i
 ~+,R^#gc[::bJM>e.e<%B_QOy_(w($c3N5d=3>%M)J27PDN`un.:D/K!Ec;vcF5]PvkKkLt;,t`KLbh3jxkAXgZ1?3gw1b<1U1#
 [CY<sGO1lrHek)TB8NoR^b`^u|mJBRc`*J_%<588QF);fJin$%dUxio+`N41|V+,L@)Fx=^jqG4z/Z&S%n|Q@7_E4aR'NM0>wMj
 4vYaA//3962ck3AJNc^a]-j4k8](,f[pevW~d)4N6WFd1f[^k.8~XvgMrw8Im((B;a=#JtRe<O?L9+('|rX>)fvO<X#+Rxj'*xq
 6,Ok2cN[^nJfjA:0@.iAV738P]1;pW8:5Qb%%3YbxV4*]KD-j_#~fU.rCA-bKF?t2v5#B>:S%.Z^,6zM!cOR1vL?_Y4o7K%as/!
 %8rwS%.aT&8wKtYLe,>>LGVby;/!ks2S'C[0u#B(D,Ww(.;99;Ena:z0k,`'aFX0R1se>2]]v$exo'G_Q3FNVLR+u$L2%71i,iV
 0UNq5#1JT:o'FEv&7@E@-4+1@gZIfIVTLBNz<_fZ`2grR;]e@pleB0s@P~]J9N?f27d3h/oE[0&NT(*|%aicKe^>^L^R-g9EqMy
 N5>#-%,2M`<tS2%rJBvmuXi$aN5jHK?BbD+:$hZQ|Y7DTQ@,-u)&%<91m6YqEgs[;o+IWR3Px8rd4);,A[+*1/9>ziwdR`@<RUb
 r]Vr&E51sdZORLhv%>;MXlH_P+v)p'+9(.nII(c'#`tX*kGQLG*3=/Y~W``t%**DU,KRakaA'dH~p&t7T0$wqV)#J1NKAFWp/N8
 C'^2?fJN)BR=Vu#@cXS`3B6qu0q4m|,,nZ5W~^n%e<H>dI`8:ujXsfZkX3&zio#'&M@XPo+#!AkMC3RMqs3:X0(Hn!zdfC+65t?
 kt*E?JGrxNuXJr99K#58!S?4Ol>9O>$d`pC9G=C%5]c>$DCHWag^2wf'JF332DH<MFS^Q+why>kc=TI#.AOlT3&%?FZ@VE']H;H
 *MFuRb]F'Q&?[hCikNC^C:J+chUb5xUXU]Eu*;q3;7i8%CkKDsro%N@)^^ub!?LB@Rqk@[0KFY#V%rL/Zmh=@R[akqhs[8OZx5V
 pK2v/Y)u_5S>JiWlydm<$i7J<^1O|0Qmiis605/8a3iIaB]Ti8Q.Z~5[;^k?-+oi6+X:8t('O5K#dbA=fdc>6wAA:$$^qjHu!W;
 UE]`d]|jiR0@L8Y=X=,ZaDYa@,+Ayticy~6S|Y`RJSVaP_o,AcrY@;&`k(/B9A2)#3)$*fQiOUZ>`nOqiITfG$GiM'@vlJuIkt9
 p-)'MpudGWA$f8k`L6dR^tb`fhK1aT%%e0r]*waN7_OZ=LH`S]<`_5tKU>:x_sQ(89T#(.=eYn'8+ejymyz_?hhG(EeT'<+3[:R
 9?wd)._UGi%g$Z7?)lIuU.w@8rKBootjcf.Q.bH6X[z8KY02-4]o|7@XIz6F@`?HzTn:zG<D&1~7jYPwjHs7yiJ=zWXIcz7]S8G
 gJ9)c@7_FCR=urkPwPeqVSK]-zMAf8NcaKvy4]rwOEZPIRj5o%Gc_CsHp]G/I-*c0os#wC8t;FNe*v>Ki;%5(ok%UPvqyq&sWDn
 [qE]$$`WfO$FyUPpBZX)O_#4ZNfwI_T#/Q7rrQ*D4e@xnMob%qm2S3tvMnp'KZ&'[7GGcGl?AWfvW7<XCt^4e:knT87_+:^A/EP
 b.B%Ea*s4Hm=o*OxJvD5VvV&Z`[77]AYWe.8ty=lPxlLWLDTv+g;g7?2NnArNKWu'i$!!v+e-94c$STZ|JCyhC3jT48U^W<=-._
 oL,NBqEZ~xB|<ONTaiE+-_ZFE+uw5w1p9XXZ&!^ogw:+8ZjQ7Q#&0Ie>Kb?9/EAe_D51aUN:AJaGiS'G$4*eM&OY)6^37x:'Mh/
 m$Qq[R,%j@ujaZ_jS$KQ3xv&]#DH=JY1C!&P-l..x8gD/..rD_qP_[iuGsKNn(4#>j'T8o%DL&JJ6^2cF_U,CkZFS,to_FoN2.J
 ;Uz@.HtZS_bGe.C29a?Zz#&RGg2-~Pg9`(zvg=sWthWb'i~@:C]rW)]g@I8U6G@4disz?[I:A^5-VIKl6&l,Me0aoe|@<auybe#
 PK~t~_(Gi1X^2e+@:U<u_XO9F/hLZ..<|pt4Wqj?#T&k,?U3g)`Q2rdxUaWGMclV(ZeUo;5tYwwDe@LA519kF8o3,;s;$6H[;9O
 *Exh+A5TJ3flHdrq&|;BKVenJ)yD|&Fk7bha%i&De014ndc,cYsp%tTz3J%=>K[-_|[bj(I]o/GW3Ljf|>F6d$zL!2sgttRQ^@G
 uq`cONamiP=$F?Dn:3b'(M?pFr*KK.uTuDNR)@]_,!$6WJOcpm@gxc[94Q+j]b<LqHl(dfHPfF17a(W$#IBqXpjX;b,u1)7U5bw
 n;E_/!r~SZeW^$JSqD;!+7S:Y=;Ydj#OTg:*t*[m3|<=~lwu=x+c,a_IrwmBKsD]c#[g%iflLN0'GQG=#r<j-vf94Mk%4ei9.1;
 E=wp80$~X;Sgdd!A23?[uu]DIMIH>'ce@bje(@5|CeIWAvG)g1Ww:UWI]JFEP:J2wot0TL02i&6j|z<y6yOPQYqt4<iPZ2?lB&Y
 C,/X$5o-FKVyAm@QRc^+SeOh4,jXjV&Uv8dl9<HRxa3+TXx/SKy7uP[=$=4S~>6BFQCH22h/r[Dv^3J<Dq)c~HWB_d#Tg=n&[h-
 [/vKT&oM.h?c]9MF<dv^a@V-OE.]G]IF/v)vtH]#M4zH3h7*,0,qJU5I6u^d.948%JKf<AL!!!!!!!!!!!!!!!!!!!!!"

def page950Changes : List Run :=
  Run.ofNumbers <| Packed.numbers "
 !!%pC@W!NET#a&+f$'%Fh'2&RsxPZV4Vz!ZC$<,mb7-x4_w|p:W6a3RU6+~Q>cSebGN<ld!iwK'VguLTSz3|#1K]mis#&ii%;SM
 =6ZZ^7PAx4@kYZAQaLxd*E)A?T83!-d1[IC%p2G/Q]5Zao?N!RqL:I%49ClL55^B'<z7)iIzwrSxMj]l?XHq(cpVu/;<MU<I`n
 L##qTqg,imEaOLK.Qo8)J).ShZ%o~$E=.g"

def hongKongLow : Grid :=
  .ofPacked 0x87 157 26 "
 !!*)ZYxk@FmOB9>5E[c7AIE>Rr4MtDX3,U-`[`Z:eOJX-kL;|%uG+;-[_3x>E3`0eBykgDh*4.<A%~xEN;-ahk?._(MLez~:?4W
 (|v~3pM5K>x[(<w2kxEjGStKps0*-4>z0e(:sU|WYa(jj2`sZpxBKGc+C1VNNt'A~E3`sR%]uB2f`F2S%cDgPk_)eaZ)F2_lEk)
 MD_7cq87>9aY0;wC_64s<)YVHNgTN$!8aWew@Ka(w~b2a`-@!,%Af-i1Bn#`rB!oHH&K55pY(IM$#Rr]Bec'aa)Dj$<:<Y#O!Bt
 '#QF/aI1o=01wFmhlH^UP~Ox@?FDli~$kL*D%cU$+`fuu&t8J)+)Ew_;/]#C#py4b+J:DRVG9QOc`zo-qBYk'Wa3Hbj|cgQPdm[
 Y@_3n_c[qXi(FDf9J[q>@x`:7~26~6j;ti[N01Yjo(YZBbh+;i?2Jz,@^eG78Lx-8[bKQ0D`AbErkB/6R,L3>Sj4+t6O]p`MBN[
 `j9J0?#.m&y?zO`#q*#v/VbSrQ#nW)(8Df'^|P[=:_x~PUNBS01M-_&G[Cbx)z#Ql6J~&FmG#SF9h0'ioi^^J0Jx3^fQ3)p=ZN/
 A_+E2yN-5:O#EyqYwkXye]T^aipa[|Io=d&*fz^M/PU9,c?pBG-X&e9c7,oJt*(n*_SbulL$P-S:ESeUhXQ4t,6LKn3gl!vc.4v
 YUJt:^JCTe+Rno|#eD!ys$icrErhhud;xL$7WyA5g$5l.;nBvePq]|Z2Q>1.UVhOsY[#wiQ+*1vct?adO%lE)AOL=aawOhy8pRW
 HEjqF'VM.;,*t-D<|(*,pHrCcv@Y3GMmU=-3%:`3'8%TN4Hx]OEu?Port+8rhjI6jta~6[hHOL`+2zA+|VK,X@>sVd1^9H,/.?q
 raqltq<.!Xdl*_^`O.Za;CS+i!q'Pld]KDWX^DC1g`uU8X5<8a~n7_0/haYB?(9W]4hA<z[T9HW`X=LS#x3^x]*er/0Y46Qu>px
 VuVQKk&S.ksun$aI),Jq!bXCqF(G,d,#uh)U+Eqag#&%yRhk[BN..Ey4'^n~,:!;n?gKh3M+?zlYY[+22&RFdDB7n--C7ftPOIV
 es3X_,3>Xspb2AIuyaY:2ZkqiEh*DfNA0p5aaw<?pCI+RKbQUS.OPgQw8@*a_pTW~@!~OaGE@sSc&N*~]ws64uH@>R|r5:(~QX'
 Z1r|N>_4ML8V9z*O=cZp=9F-(a=4^o9,lY~Bq2/foHt8'Teuw,w>)+tgDjeCe,t$VB>)]Hds#?V+9fbVWk.r)W)uw6EE1OK&F]
 %#Qo6$pHT$ERWh%0M?8gObp`lB6T:&$89wRkC6&|nqbI?YW-S5_EFYZ&P0D*tAkZrh<1g<Bx'MGj@l|P4_q!QncUn(]do*%Biu*
 0hD/UI?>TZ1cw~Wvf-JW#D!-~Z&:nU-+i8gc9:#LyU3Jo[Pk5AJC6eNY.hl.1B>,dw6sI^%r~47`-[V1/S2jZ$4h'EXM(y?9vO~
 K7frtUH-h+(IAN(LTy6'wmpTl%[+4=w/;0_,RPCcrHz[%1:|KZ1ATz>rqxwbjbfZ>XgU2Rfr1/9ZGBbKXjOlG#4#V`O(Hq9VE|L
 `A_Wv4A=re]L4%m.Z:p:.5|R3bjLpdD/+d$nfe2$j&|Gqef(,&4hxM3aG(i5a(Sc'M64!V6ned|#VstZJA,z?_>G?wPK(XV%QSj
 bGeC)EVAe_tDN.]AG1ni)^fy;Sv.P5?.-!M-Bau-?~ZWR|)v@iVsO<~?pM(4a3qkAc*y4H7FBh/1c[:K&PCwWTAyJw+,[oGfj&X
 $kINSbFmF3)7YNNtuVVC(z'ABb)anQPV~vGqd9.Hzo&*!JP]8((;LCm/$0;v-LK;;3<#wL:M6q0>h2>_<sL8R(5hh_ik@D0pV0k
 2:=ixC`*2=DG<s*vHBekR]YLD'i@_xc#^F@o$G#y`x/zNyez9B[mf-_9ISwy3ZJaZ$+pf~bVC-hs$qie]-rZrdDkk5%St_fkR`'
 7)G>KqF<%eK<47Vb#EnnQY/q`*_ohrlG6H:2u&'Rt!)EW2w?MV+gMc8JQ#6&zVNZ)?;!#$>OC0Q7j5YI19va4FJ^FNxK|&S/u1z
 INWhd/'Kl2~7hK7$tr>uxBUqWAzV'E9r7qrKd<Akb:?-Z'[U;b]i-O(5dWss<WMy+*io9FcUoze2SmtX!1|flN/mP)ODhMf7MhL
 88bvm$;fr8dEXmNRO@pY-x(2+o@L;-'-.=7%p!8Rf?2';5GgiYbjKZ`@?@%zZOuB^-U6]zARZuRvV!LNxOBa8:JEM%*<~&VAM9b
 DlVd[S#.j~X$h'eql*sKg*2a+-`40jVr;e_GxNo53k:f1y'e#V2'KLz`VI,hJIuS=^4`:B=s(8Tbb:qVNx&8#.Hy7(qs(^.GR
 D/-H9~t-BcS]Q?DV3??LK:N'!?NIc6vC*CSN*^3a<9'fGG?Ey;J::lYE4Jz[A'SF|R;g4W!$G=W4a21H7KAH(q!Z1<nHF'2U^qH
 Mn8`(m1~H#8%]k['n|[LE`9l,g@;7*^Xu#hOG5z0PXA-R!aXZY91S0VIigEs;61C;@$[(.M0HR@myL|]3y'aiB-MYR+lp)CnzGk
 qd|1<dmXn)`_RB9!Q=5qcP-5>PqnuO77]#[3i/blAo2N5G]|Vs/f:fE!qf(BKRjFspyjJ5|@+d#+1]PL#L,UOyOe(n|ugD$[HKz
 Pwc<fPD_U+nZY<Z10>g`G]%.gtE?Z_Efy4|rSI&fDy'nj$_Q']]2c&eV(jo$+WU<_[&<l6Pw09o!mJBC,0+I/=R~l6C<xOz$-e3
 Lf49)G5SXT87-$TF^CY?ROVi`vWD4Y($)tMLSkp,xZVFI>;H(`YD_=#NrXtyZW8Ri</_(;~D_W&JsP@B[n$Zkb3BS]2%:e`(_Dr
 V1d$F=H$W#OtPF&xUEpVs$e<xA`='^9SihFvq45[.3xb9'd5t3|ejAS2n9.',b1Jys9%n9ja+PrKfJce4p3=#9,b,EUnEj6HNH<
 =Dj5q?t18VA:1Ho08YL~R86,b:yTr'e??<en+TmR/b'JJ+0Y!!l'G3:=qUzFM9q)4tZj*X9bFJ<+Jk<9#VK6b]zY~>53B@]4g`X
 ^G[5w;tZYjwqr&0vMw.Te`fps2Zy]/b,twW<m)/_NN2-,*E;_m8Mz^2^iP.=HDqWl/LZ*~@GJT]:I;eZ3l]hRnn1SkAwMIphV?e
 nIG5B3O#<K%vC'':Xmza37=YP~OOFSzqfajSj<anon%)fAyx^$L<cpx-T!J38|4z/;pBBd7RKS0?~k:&'|0OLKFsYr=B9#HchU4
 av[o(!J>o-;94Th+!B/rgd:`(FdyWlgvE$r;Ze`^h!QcLal,Ue8/Y|!|&PcYBR3r.2)<aU*b.l6##RW>#go<XDnHH'uyKwZH6_L
 yZ%qT#oM9.`ygGnRjahS.m4XBq(NEUrsH%1hwl:ECWXfWh0>!`wvWslX<sajK5GG#9QT40P;n0-]oJ:3jgu%dcy!wDQ#bJ;@C9%
 WYR`12rD%%)c7z0n;r4/1a7%,ydEo*c$XzvZfHrZ(u@h2!Gx,IM!?B!`'F[)10P=g'L:u|aGKG(s![#Y>6!JN*QAPLM)KfC8]U>
 Xmxc=!?_wau;-'fqHN.sNgYz_7Ae3Ph5QpJmeQ9+K#8RB`*`m1^QbKb_^&NINMN&A*RlI[)(,.k|'E,Geg0QV2gHH^Nb]Z>Tp7R
 D'8ydD~N'mIdCP;+]8il]sMxfkEGFE4.g/V/b36nZV^<nHGc;79#B<9HyOR>`]yVMG1uxIw;`3@l8af;hqez1m&0Zx;`*-.E+~Y
 )Q;GBRSZt+Bc?*l/]a,#VYHg&$L@7t(lTYdo8@=D1H9[vSEb928k?i0>F-35[^RLn!^`Fal]JBsD#]i*4D*q2MnGg@%C/Wd5[.O
 9*|4Z%4axyjYwT5C>SXWwCKsLR&0[t`+$J.&XX?E|P#y?|9[]+JTa(sG5?*UY=_uFCLfyhezis+Qz|yz8iLWP4v]X?Lc+7z9E`V
 V')b5^[)5309=[yS4;'=~o)'[p3I2/e;|@x*pF`yPSh+YpH%a.Ab,V@z$fF4>lcCY:5dD'Ud(c(c_4a@<)ea?,bZRg0[c7c>I*I
 X0be[mwe[am=?;8!?7;9(9_E@H>SZ;c**h6r~VU85&o_q8VGl5xccRLY4(rbW>HRaz@C2a?9<4Mr|xS=-Cy)gqiLSPI62'jJ(l
 )-xubUbFc/|S/nuWW%2rMsNIRj@~~N||$X~q/Rb3kZsIJ/'>xUI8KfOs5w;J|)A&Gw:<hDTQ*R6O;S!k9x>q#G8l#`yOE]x36Ja
 oCEIdbSWK7QN8*%t(<arZNu'6.TYew'RE.v;Y*|(*ym3VEm8oZh9I6,Uzo#f:)^Ik(4izV.L;2r6QjkMlFbM&_]w[xTG,%fncpi
 =Ti#l|LBY;#L1%/gTeXS9~gLuxh@5H.)Lg]7tP)CC$_zWvC'S!_ak<OGm$*1'au^a`1jbbLi<:F@R|_Vyjx(F$4cIegMF5gr8EP
 xMc.S~kSr$eRc8EIlIjgQ0M#0?$f*::cYAX)F?Pu:9nED0@dL4mXvp+T'1#vPC'<44BEwK?VI&F3VwH)j(pwfGfK>WYeJS?6e5t
 &UF-A7RELp~rMz5`ye)]g!2Phe-Ue|8Y%7@&>R0dTWfeVk(cMO;S5vU?Pd5o+=/QLE8^0<QxUQA*'.SPw2ev7yBp?Ky?w7;:0VS
 k''z-m5aI|'gp72D]?rl&+;*B(~te.~%4~BICj|Hst]_CTHtgSba!]w0>uJ<'-G]s|H9-|qA2Ef]4u>O4woX<j4&`NQH.7IWuip
 RpYlvv~-c>P_-vxhD&-MA#hp(_)xs:V%1<b*DSgj9sK4wiqTjWd->WoNSdnSr.ewU#V+IjGpW>eO<-/YX.U*3qh6Mz$47BDeX<k
 hs$sWn1:T.74!^/iCMvQd*EUhEa6,Zi]_V#'X`%Ln?j<eN>^-O,j/WR[YcfDmp7,a86fVf$o^*I>*BY)QdcE!hEZECn-xY<EA6Z
 d9q8KAsx[?O+V^kj:'>S+yI;+ru39ftB2o?Q'a&Dy,yPzyr/khds%MibfJ^9y+Xk[0BtCGH_sVIYm+Uh/x6p`Oc].pubv8LlT/s
 N_K*q!@VzGhg8;9~&l/nX-cF7P%AVN.!I,M?9O)!0YBvRq7;KPFqau[u_T?QA~|?VBS_Z<Ndb-wh*zwRID6^j`hLwe_225E~V<N
 B!2]9:G)dN^~BlGFsR:|J?SpgYYFL_#4Kdxf,Yrz?^Z6H|tNVO~@sy;w9P7O5LAE'Uo]'WQy>Z-4_Jg*a[,2~1b877$SGZG^=!*
 Q$#CBN;<4Nj;)C;_m>]?<?j?vNKA=/k|AJ?ovQ*X'([TamRQJ_O2po;MDbaIv<ptlkXd0<Kb36=hf6je+Ni8nj9cd%8-v*;[Ah
 y/vI>?%%&c3,9hON`8$hy)YMQj(mxg7n'3fhJ38`C'bY#$mfW|(v+b219!4~*w,#sZAl^yxModI(aQWp<c0XF<cK~NzW.X]Wy[K
 __v.u5HkRH]o)$CW]M[fRmEoDR_U&m?cAY40^~L*F&Hir-H'&q?F)<EOJ%~nk`1^&d6O*JYqAyB<niZVn~iLPnFf9m$%Sp`~;gs
 xh;8[Z3DL~:z@3LTOauJf`.Vw735o9X]Cw]f362gzxlz#qoQUgo4$@xgQ)Oo]`ZeoPhyP0KJ<kI;^[4'K;]<PdeCG_:OwPHt_L?
 u_3P4r'e=PDT<Q-$8EXLYqBV-!lq!Cp^%='^7+jg%3:_H0-B6ECSrdX:)V9SwP!p!P|cZOjv%$Hyb|v7]kVDo<%;vh^'KE)CKSb
 i)B:=1%bk5nQjZqf@VF%1WPG4$pw[spc=F(dUtKg&b*L=WzMUY6#I%[PkphNkh/le-1t4g.7:dH_&eN=/E;5%5Y-3+<:Qdq4KeJ
 zs0mqbTaiCw49G|0>NScG,7&)Pi`.k+6?-,zf>HhRilyaI_@]QZ'!q-W:x2kX1v>$?z::@(,sGs&6>/Q>3ym41)L!okf>yJgnDO
 mq`+)X[7Z0Q7,?][rMI8Gqp$O/|Ga#Mfe(o=#ILo>8UNSFo+C&#c')x:;iy'?*TeF+3W;@d8<ZcMY8|.WkDWDndo3*rFX(D_A>d
 OPC/+J22msL(lL$TP=fzK-XjvEGbX@12sSNBJDQXP7;p;oII6|?EPG~rMP4<P%Z%x.>gibGy'O),/i_)Lbx/Gm[SX7'/XQu1O[U
 s86V+ut%8ix|iw_O8#c[Snyr1Q`iws~4.y(5IwrQDL'bpN=O~/],!4t:2Ah8zu3/:f0q6HUK9K/=.~'x-Zw&nCl9s2jrSE(y,e.
 T_N92-nBs7Wf1Z%2.;Ynl%GdoO2$AF8<eZV0BD@le7ZC[zbI.HE~1b~F?FpD0z,o.uzjjZM/#!5m]k;*4/(_ZeY!QIZ^Hv!yo~2
 ;^.~|oJyag,hhtR+el~r2*f0.Axn_uAv?luL$R9.ywEf_3AL#.?|sV/C8a|DpS$^RofZ7hy'+9:tS07Pdu!o$=pY%E*!7gtTklC
 Wv)_&UX'`M?X.?2ur@v*NF)g<29L9;soJ^P46I5@#|Vv!B$DT?HMId`#:sPQ|XSXEWByUsh$l$OrTBqyaW.8&J-z$:6Qf=dcdC^
 4.Ef;^IPGcdy;D7`YDjhH6`/'N3H,:90[|sn%$)_<$X]80q]kVCh![y4*)?f2;8pR0xXHYVn5=g`([O6RVZO!UK'`hcdR&f14JK
 atx9kCxQ.-.Ywm=(Q,%`cyO5<`>p~V[|(w*&YhZS8A|cS|A,eM-'m6fR@D+w6[J|!qy;d%w#=WB4MSv5]HA-iR>zyr.1^?F`G^Y
 $<NyJ5~F##;%&]Zz='j>B`3O/CCw0qSGE!Rb.Mxk~Sz^0BK#Qc?4/gCDHWV/z&FS2IuO>yU?b;X8Z@N^,$*EH6KONb9P[&^d)%`
 +.AE%N6$;5bSvD%T-R8&MVL()WKsxafO%r!(:OrGmX%&(hfvvjr<xz..eR0D01Rkn5#`~CSXwB9nISd~Il/SsWiXUp&cmKzLehq
 =JXR-:-wTHT,Z7SNLbiiJ[by,B6Fk:BW5>.3E^Uf*C?/VnQI2A@H/bLqrJj/#+>l&/Vg:I,;(%<vDpf?Xd$J6N9ey1Xsyll0Vw^
 3NJNpQK9W=Qj;;*l6&6LW;FTE/@8IRRI06H|%)Q,FQSeK/8=;RX<8NA5!bH]ZWe`Q`)r.yn*raJ5GV/SsQ|W4*?a=O*4Z[7`h'F
 TbSVX*-<?D@t_I_>6L9*/W@zN;l^s.x<Uo9G$oQsNB[SSh%Sh,nV~[O0q2i.&2M1x^?33c&h1;SKV=R9Cr-C-*s_z&2e7X+`&HV
 kyD?)*FCI)u4|JrNYq%Ko0q!(@D|'s';j9CV`%O)|t|~`es(#6u4SvtyC&FL5Z0]OIh?~j)$6(8t85%xf|tyI!I.<?]C[:q+.9D
 M_[DcxH`T*Fqt)L$wqG#-3M90F.A0-0lm~Imf0sN%/r35;nLRW5!g:Zc<.=RpowbB.08RJFVst2/h01##@vJ;22q*)810e|!5^a
 =o1q/f7t>Ypg49f.wyrhrV$D-;T[Fu]ht$-4R;A-.93~.KJk3u)[#@PE)rubqa'[QP'bAGh`-=Lzm(7:q,6KYggoeArL)GUR;h4
 kq]%octg(f1l];^R$)[?0a|Qe/.`Inv1jZ@*jROtl,%#%a!9xECEdvOo.$J70xd`'I`QV=^kFlCdLElI3IeGn^b5qN^H(n]3!m6
 'tX_!J7<h7&DrgT$Qw1#>Opyv(=w!z%U8Mxr/AgEJH-qONaDi`V?lV:;c~(V&Ln`.os]QbV1)wR]^,PGeC)t(k6wbLC3vAs6l3I
 5vn!pX7+3tOL2n>:)#v#>Cj58L,:!TN9T:/a?Ik!C*qU.SxrhVsmEb-Q;y%D5j~N=ROyBzXn~-c``A']|$*7]Ot4=%?P,RP@@$!
 7IPDcmdFnNI(r`f6bVS19ZQJ4ubf0qpl+l~;*acP@c]!r>i#SL$/lG2|7#AXM~ccO]Z^Z4,b1h,9W=`RJBTcU=,Cy./(fHJYmJy
 $T*`.wK0VJcS*KDxVH;uRR4bWhqArXr~<n_hKP5aE|k_@yb+<>Dw.&7-He[L]&a`G2=k=GBQVSewSCmfs(lh+pGL`7XH&w%FQ.Q
 a9*RP(xi^#4nNOSeBARI7QoOlI(g5Vs$d%A==3/,P|>w>Cb^O.Q!7&Dxo%5o:]OyK8QB-G6.NO/W~]Ezj*'<TZ[my;+yj8ezr[X
 :8=TXE$9`-Wr&|0qi'0wR$iP[(R'b%w?:wd`Bw4_P'k[BI2aC[6~4C9,JiS@$3N_KbhI+.vhJzM!kY5Jr~|J8]J#!4n9|F/`#q-
 Qd:>s`&c3s-_H;JA-z$ZMl=D>b]j_gKOf0DA'B,#:BpJAeEym,M4wQ-`tDi@sYQtQn1$U`tNdxaq[k($n84bCfBR]ln`n-,GX>d
 k|gmEBAd2iBs+![~T+O6+O6oOx)w:n5&3YnI89$v5IaWL.bPcn~7CbaT/|e$8ufDehYe7#aVYvQ-00F-L%5oEW7]Cj>q6;6xHC%
 w0*rzvfiIC`(nWW:*f+TR54[(O6lG3rBdex%h(PykR1L3I6,_4@5xKFbG@1:(#RczX88]Dg!k:-?YrN!GFDkQ0p&>?_-13o'Wtz
 <uqHK'e<UjuMiK(/>[xl7sa<PVqO~xIXJ7/Y<PD]130PO@81h%F>U,uMDD2!'|h=[xYEW^#K:TRKFmsCPy`06`:t>veMzJ=NFm
 %/C8Y|jIl0L):_|$L'YG#_m~R-,'t.8g?TLsTq1gdj<[2f+J:DP5|>i$`FBYA)4b,`$M5La|m-umZE#8+Y.z|KdH&2d9`D3Oun0
 ,=MM7[20N@mpV+1W`g(7f*_iP(.z9?_j%Dr'Wv!suyg`XkW_S~~_Grz*P00UgG3A0cmnxIE92O&NWXPRA[-'Y_w1df,nu49'4_E
 VJ&[5y5U_ByLoq#Y#p`F?&BcaTwM@Ah0x_V1jBf`ndRDG,RlQ8pfSa(x3NIQ0>MIykKv8y>i=tOy'ga.GdWk*ekp1@._bFfP/:X
 MTk>s)vpo-Y0T|b_M^Q2M&8wyO'c6h_>6l>JOl9'E;/hyvP)i|^Zjcmy/GqJ0~t12k@Ya`|vDuz&>?`B:PN;jE[2oDW|<lo:>z
 G#cMSTP!j<tC&G[=]B-#TH|%'49)YbiYU+Z&=.]pYN#tCb'8:!]dhJd`e1ZpG3?U_=NIC7;3Z,4t#fcD#C[9Vm:[ki(aiS4]kW#
 Ul[k1vIKBiOqfS!I?e)TAJ|O?llb4JmjF^ec;>B)k$[<w$R$eBU+gvkCj^1r|h'^z[ltr!JpQ[2v8_'JK#PR$tgyzF:21*./-''
 kuDo#LI#py~7V|R#vm17ygLY:0vwf,K+KABqOw^cbN+9F4>h:jEDl6;U+SoW/Nvl1Hu9&$*2.tagX.X:q;&@][bj(73Ce*b2&3Z
 F%55L'1uhamQxxBv/T!U`&#Po!lw#'bMTn&QzVW>+AFhZvd.7v]39?ew!%TDH^-X3To>`Gl@[,A$W?!0ty]Bc`EkOBX`-Okp`A
 i/Ryu8v1*]'TP-K9[MT8Y&F&Z/_7)QAT15/YAlgrfVDtL=0!.;^>dVB1t??4w'a5Rt.kT[F8lw`R;L@m2nU4S(,f>yIQ2%%g)(x
 CPNZ^Qiw/(w)[#$n3h12lCl7SzO&w9#h>W'I!vT*66i!/RX[RA<Q)yiylD@hkQ.q1;`-g9FYU^6RapIjSIbU)~).,$e4Y_hi6w_
 F[1p,n~BRA;S?b;tv*n182a1#zYqU3<wYgXcpk#E+475f$!2cU?=Tgh=9XsmE#4JSV,_:]&ln4=t+NNiU$Gk)s!!!!!!!!!!!!!
 !!!!!!!!"

def hongKongInside : Grid where
  first := 0xc6
  rows :=
  [ "...............................................................①②③④⑤⑥⑦⑧⑨⑩⑴⑵⑶⑷⑸⑹⑺⑻⑼⑽ⅰⅱⅲⅳⅴⅵ" ++
      "ⅶⅷⅸⅹ丶丿亅亠冂冖冫勹匸卩厶夊宀巛⼳广.彐彡攴.疒.辵.¨ˆヽヾゝゞ..々〆〇ー［］✽ぁあぃいぅうぇえぉおかがきぎくぐけげこごさざしじ",
    "すずせぜそぞただちぢっつづてでとどなにぬねのはばぱひびぴふぶぷへべぺほぼぽまみむめもゃやゅゆょよらりるれろゎわゐゑをんァアィイゥウェエォオカガキギクグケゲコゴサザシジスズセゼソゾ" ++
      "タダチヂッツヅテデトドナニヌネノハバパヒビピフブプヘベペホボポマミムメモャヤュユョヨラリルレロヮワヰヱヲンヴヵヶАБВГДЕЁЖЗИЙК",
    "ЛМНОПРСТУФХЦЧШЩЪЫЬЭЮЯабвгдеёжзийклмнопрстуфхцчшщъыьэюя⇧↸↹㇏𠃌乚𠂊刂䒑龰冈龱𧘇......................" ++
      "..................￢￤＇＂㈱№℡゛゜⺀⺄⺆⺇⺈⺊⺌⺍⺕⺜⺝⺥⺧⺪⺬⺮⺶⺼⺾⻆⻊⻌⻍⻏⻖⻗⻞⻣...ʃɐɛɔɵœøŋʊɪ"]

def hongKongHigh : Grid :=
  .ofPacked 0xf9 157 6 "
 !!%oN5b-nKY*YOSYb='|xW|bnfC[@_?Ch'U_?5Q|D[Jm~Jk+i&dY,28a0tFsWfK$swP#!myV)RR;C)DZ+$N.@u_PjLQ>cyq7FPV
 0l*<VPM9mPziG|Yh1q+.<y$YWh?jR$=eENiHJf~Uuh:7dhXuITAyJNqXjyJ/s.qmoYiB'R*V<ml<R$'jK/Pvr@oLA[Vl.@YK$Gt
 cr2nR-sw/?aCfOB;i<v<L%$[NaYms>6i?$YM]*TplJ+D_bY4'v#2%v*IjRd36)p[R#M9b-yd'=5a-e^rCboKmH-|4W>jI>OQ5gr
 %5Y(Pc(Ef9>>|8bg4_=mCS|k.^;^9ET6qeMY^k#&YK~G!r+#r2`,?;50Fl8WdFRz,r*$[zsJ<Z9x;n=!R.asXTp`)fnSG2NWOLv
 oB'P:::'?(JRfW+R0sp!rWp547R05M.2czZ&`z>RO(bIvQKqID.>^SzDJ/g0:KtL2L_v0sFOSUfBe!V^+B7/cbsAWC0<n3tz6]h
 `v'GythqEX4[<@%&q1!a6TJ='RSx5$hlZu.MRQg^/7K>#81YzrBO_Sw-dN4(:.4d~Cm/1=^4c4mLgeiQ)qt&!~%%do[uE@-E1>t
 Y@7S+S(4Nh*!3)m]0+ZY&4=-t@BxK(g1!4_8@tI`p/M1uTLmmI7|Ac/i91UY4cT=(D0v.<V$dVkPG=C7v:Fo@]G8y&Bz'#gG*-E
 5n-sTvliB'Ge90yY/nEv^9.dOH%b`jCm(&NTATHN_a6EbE-/`v;DP.V6gh*r&'~cUeQg?'#EnD:SDa;+n@F0+/(G5s4KK'v?@Fk
 :<vg)k!nv+/8^=jXlH/`DOA4n#&Y9Y%%Pm<NZcjM>^p1y26(/J~:;popX~nTZ;,roC$$@YZ1xoUkM/I~i^Q;z)>Y7I;f:$r59xp
 A``.d?*RkZ7)4@4hQq%@U?xaX&O]fD0~Q7V6?|G2pBjI.$FE~)+3cHGg(fgps>_r<S4rj,vIq:NC|#$6d.e+PHzA'szRvzA)T$r
 sc>bLngAdq,[|GvPy:8J<+1T))4MZ*h<+c%4kV`IOJek;b'i2|/6;D_2APoc?xJg-`3|P&MCd0q7fcKh3dY!,:p+OdaEU|%><9w
 ?^PXF~Zta~$MJE0e.eCZg;Ts8.v-#P7]xv1qD!1yS^q0,,9.TH?34;H;x)>EEc?aA*`D&p50(v]z!;e$2#GATy<gB#D_%CUCT`6
 bGDx,v(x]-2^1|c$W#Ts/H^gS^wYt,,#:2g23kWi1z&0B&&5Qzi1xZB#B9WE_uJFB|epgp=0Uo2or8hHcw^BQXM`bft$QawCgI@
 muMYe>L<u,&4IDK+S;kdeuN^y&h#9HN~dQxqC^Z$GbMjX#jP|V9*wYXN3]U&w4J+=+PE|]GuV6HM'vU9Pi0FfxfiD&8.%b?2e2v
 (>&hNF^EJzUSTK;kdFx!oMo@#Tm-/#5<wT^.j_`~)q!WwfGi-AR$ES_x6i%babT.xcf_I39EI7<VK6KV6E^c0f<hGOC-xZwGuL=
 +W+OHo%L#/=z1+@H3GzRx0EXAkPJuvQM^BTjYIq*vGRQSXU^T$r~BBe2V'$'QH82k/cv5J69>T!uzzv+>#=vvWVaqoCr4Gb@deY
 A*?Y0k]U,^|U<8[M-zXB6Tl5a+Bb%hdwNR(5Q.?^#KZ(6os#.%$(d*YSe|,z(b$ejkI8J@&9wN^C&?128*P$O;Mw*(%hLv>e2DT
 _YK`<Q[KTLsrdj;-Qa3~rBABSEG5p@$Z(j/7n<DEpA8yD:7s).,0CHSg>7luDzQ?a@&h2+J4p;Lwt*P/9Bxfiq[P?An>,S`:x!8
 p8]6IR>[o;+MP`[F6O+0zV?H=OT7Cfr~Ov_[tCX!(TqDEa+119YI6bK;OniLJ].$D@$:1qop[8v*0FQLaK3>><4:9^-KHZq)+3a
 %,cyInf-=)w1Jt?+DZ_$`+FZN/JzKi#lp0HH=fR=KGuKj3Ghinx`e10<Z0j7hh!NR$SeRlFkNej?0]BkYP>zH2G+%[e@2NL]U0[
 `99'zme8+Vb9e$M:1+WJ<~('n:J?69vU[90>@HqmS1oqHMV46|.@uoOCwIs@&1pdpHoX|mUL@ROu+dS$|KJCffw4+RA<0t'P_<B
 NKUifDR'N5pvu^r)v@ao72:@Ft^t8zv(x.f8*Y&^Ou"

def hongKongPairs : List (Nat × String) :=
  [ (0x8862, "\u00ca\u0304"),
    (0x8864, "\u00ca\u030c"),
    (0x88a3, "\u00ea\u0304"),
    (0x88a5, "\u00ea\u030c")]

end DroidAudit.Text.Charset
