import DroidAudit.Text.Decoder
import DroidAudit.Text.Packed

/-! Character sets in which every character takes one byte. The first 128 characters are those of
ASCII, with few exceptions; a table gives the others. -/
namespace DroidAudit.Text

def asciiHalf : String := String.ofList ((List.range 128).map Char.ofNat)

/-- A character set: its names and further ones, the first 128 characters, and those from 128
on. -/
structure CodePage where
  names : List String
  aliases : List String
  lower : String := asciiHalf
  upper : String

namespace CodePage

/-- Stands in a table where a byte has no meaning. -/
def undefinedChar : Char := '\ufffd'

def table (p : CodePage) : Array Char := (p.lower.toList ++ p.upper.toList).toArray

def charIn? (table : Array Char) (b : UInt8) : Option Char :=
  table[b.toNat]?.filter (· != undefinedChar)

def decode? (p : CodePage) (bytes : List UInt8) : Option (List Char) :=
  let table := p.table
  bytes.mapM (charIn? table)

def decoder (p : CodePage) : Decoder :=
  let table := p.table
  .ofHead fun bytes =>
    match bytes with
    | [] => .cutOff
    | b :: _ => .one (charIn? table b) 1

/-- Halves of the tables of the sets below. -/
def halves : Array String :=
  List.toArray <| Packed.rows 128 76 "
 !!*>dK&Vaf.yfac:XBJAT=mGx/GkcQ=IrYsO[ey2io/I~S<.v|^|<1US>y-ubz.9aHA0@<sxc8l3A&fY.sL7JP,NL?ycvdm)(U
 (#b>eg>Kxko>QE)<Ce?XZ4m14PCKad:QO6TE!YYJR6E91TeBu'[?Pkv+BU2(!:!U1H@-(Z.W|d`.[rF>59kVQ4<`E3,Y@@.U9Z,
 9@DClWhR>xlrMOj~tVR~xGno=;W(vuRsy#7HRjphU*ElG6c76&K.F]B[1|EMO9]l1Qs5~()<GsQS5l$v091e2(Ikh*Plfv*q)M,
 =JEUs'7+sFLkf:/gw+aF7#0(=fesB?+W*sQolvNIZARh|AJ|`Dc.FwVBJ&:S`:G%*&Lr=6>t86X)a2wO*7+G/i:ZosZCp/p#8`V
 K#)KCk`~8qtg73vXob2n#f%'|UTf,6@DT0.k_h-)vu+|ku`u8_V(SNl,fs9fDtZ8E'x>(d^Hacukax*goQV>H(5sg@ES5ahH$~
 Z@f!GypgHe~bW)CF)|/!5|OHsRvZoIrR93!]L<*mXbZp~msFGoEHjiz3PuSW`ql*8PTzZ1G@`3_,jCC+*v+AKfGz.=o5_os1rf5
 %!0lN;l?U^)|kPa7&H%pF!,TTi:Z7t/BlcZLbv4#OI/h@ky>[IR=suY|m89(<SrWOBN%x^d-#yT;o:c]94|dNg_l$7S7GuXf')4
 h+a/?rSVMOON=ccad<xY[epHe/TrBxB*vmVb*z*On<@s.d;v14qxi8f%&C!)%PQAOYYgQ!K)vY1/|>mj:FCO<mCIrA.X13s0@*n
 `yTPFZ&,HdB[2M:CXXBG`Xo=YUW<y]bTGE$:y59+5IbPhMV`!7[D`~?BcoNwwvp>Eo2^X`t1#nm/i.->N$aaz!C]Fe@CP/XXcvn
 2i@pVP?fC#J:Yr3$r`RvcA3sBYHH+YYuHE-Uy'To?OQIxU2NJ3dShAfUNo):gCR;$>zJ[M5$ka+#2&xcExsMg(Xp4S<OSy+X7UL
 |>&_)g/CPYW,?Vnw#2p6/7.>!=QA,BS>:!JZQq6&N>@+DDKdI]eMrJ0_d.a=ls2zgLD0$uSGOji!#;1.cRMA%EN=#I[mD-SE0N<
 A90WO<(Pt8_s16r$-9W36Y=N=:=A<_e-)f,4mu7QewTj0_G^Y^ueLuOL2|w(><%Ns^,@Yx-o1=k.p*ZVG>|_D0T2tXF)iK:G`6/
 sr5<4#8&t',Ya3xkkYarZ.XyuW=?9zwNJwhp$V*Ga9P>w-&>b+&(xWXY'Y(i(,s-WB~PNUoqd46aI7dy!pW9jeJ5R_E5.d:!@gB
 It-~y|XjN>D%.Gbdt/Ww@VUM>XMJ;s!pI_6RXYZ-vj.V0x4@mY%Y|l6Uh.^@<FY|eey2VVm`JLHD4IU:!%j&i::-uQek+I!#w@U
 H~/=1;5JF,0:`:GRN^!tDu`^Y`:h0@HWt?hmXP.qQsR=-fL]3^6qo]g$e:.1R$T+0>;'~47R7`+9<(RT_'#2Gd!O!j0,GxOXXJ/
 QZth8.B54upe_=)qv$;UA>$wxC6nrfBg5*?/*|^[SIJsC]X>__QmK-noYiqR&jJhx-i,UL+DG@wvhM#K&PiliM]pTt!'?UH*v<a
 AdJpaki-_YnR-P,uRHjU8:JqH&keVdk~qey(em!2x$=k<q*NHoW!v-W[Dh^j(w|vtxbo9~?kU9~!2TAc3INQn4zNRIn=bt3uOGZ
 E$N*h@NI^-SsiZ^zJi/j%u@9<p>+A8S%VjjIy_up9CcgwoXF8A)$kEd2>fr3gLPg5%T;H7si?H'8%[_?6.601*aL'q(1D1zd~c]
 Bc=X[?f2|c4J,9?Gj5Z_+cRsh(jEvt]`B3-nYJ%3NWyW.KL[<:ndxPxQ+>E;Ar?;u_jB7]$OC$c)WPU[;n&~!y^zI`[?=VJYM?v
 ~=GyTK0C=8)[%9UE~W0|u~fnylSjrK%v/(nN9:j,+idvY0O1sTp2.H^v!1^q(flEhMfv&_?8o68X6FbePO1Hay5y|DG^)IS0o1s
 dN+oD4>qz!WE%vl%P<-oQOJ@wiFU|5mQ>4l='.C4q]3qyH'/I]18@$?_`mOB*N/kr:*(VpqCc~bGl5h9C4;^9p.BXzmX|nAi'mM
 5W+pvf(+`BTVr.]4pfguY1,:Kea@vlOx>I6&]!b^Nxml;Yi4d:IM-.Ag`H4E6Igp1aS3''Yd>,+*DmL1HYSN|JNu]V*OV3+01>X
 q7#jLU[7$vgaX&m=Bg3y(&g;Rp2QsLz#QNth4b2Rp*FmNNfS[ZFhx>,kxaM8X@1ideXZ6F)BiJs7|$ZUjB!sd.bz%Q[+a|44C<h
 UKP'X4rEUwXq6C?DN78UeO'v8@p@2$l-`=fi&MQJmrz-eBG(wH@b!I>DMoBO&J'$$a06N,0F:QpV9UZY~PboW6'>fS=Qqqv:?@D
 pKNR;lo[P0Wchw(02]Nv=LKG.Nd0,,tI9Y1N'!jN=L2tI2(X?NoG@ERKlYb$M62zL2D)f)'*(AEz'NlI.-+80X&F5G_jMGu*fQB
 Te4<ME3VT:yk#bc<n8S3P|L;G]dPb1'`q'7?!lR3nBuVU4a9At^x&lhR5i(oe.D8'Zns&7xAM:cQXXphK`gP%-i+V+E34r3Da?m
 ?v4tR;3T$7hdt;(s:G3JXLr2dYLh9Z<rFpht[9kH=To<?bTbL5WIR<QmP7DlU2=LA:_H'zjO&jRY#ivaMh0GV/`Jv~<#?$[?J,Q
 OTZ?A(PoqAYXrTodM-%>JC!g7xVV2,H[EzK$o6%jIFT@]*6|QebgF~rO)2^<!lznvLS>/EgiZwB'dl<y`=jzzln`Mt:ou><53k&
 T3+V;iAjg::$#@Z4P_vmxl*TbCMpC^2vMgC=<Lp&Wh5tIMQ3eV!vw5Z]W6Cv:h`*oEpAHD:[Y)rQo^vP4nA`*)WUfCLbH7?WR0#
 TfdrJXyBfkO6a&;u>E3>i_tW`hiw!e#!cU/kc=;okU1rnzlA><B-vRZyLxH4~r/:izPSVLMD?JvI^E%iaJ`dzKVfltL].@&3@L&
 .XW;9+ZF%*_,rIb3mnsRU-=+n(QwnlVdX`SYi//[$BmiPXek+8=/>lWHV2E'8kRHK^%+Gye8HhUsEZZ241k_wk*qU[C[p]lypN4
 7eVJn.:7/_UR_NDiKSV/Go5u/g2R&jTmy?lTj-6JxGQC_R!0R)X60UYNmxN?B&[FrwiY*,AvT5rMvP+wc(~d&vcRi&WJ&+bZ`XK
 FCWzF_G~29<2]pT!~_7VP7_^/:8g>025p&=WfM`@#eVLX|$536,k:-5^7RY&P5rI=L`~aaOYelK*A-P*!q%gg7*,[39x<g+Evnv
 x$5nQo5:)nRVspH`[7Xh-_~QsIF4a7kS9o9e?uHbZpHE#7j~Z:?~+JIN]3`%s3)|bGj.5'dx4PV*#*<7>j^puYy$Iju/3kOePe`
 zhWSCbIhf)iIFgd/Z)QH-^k!v#UJ,35Z5JDS]O'FlKLr)%Z:]zR5%9Q*@:,!DnwI@ycIH^h~C,4)t;64Ih6d%mniM%_Qi/w&j(q
 e/Hd?H4'Ic?_UD&b=z,?Gg);X<S36Nb[.>Z`V@L+hi|GGe;@s,Uzt^|9l0Ae9r/&bI@v_o&dEiJy1eb?=fsD:2UDls3*J&^T0Np
 j%4p?(BB0bB2*[]`6!d9t>3ebtVw&Az(7KpR+^@u[+)?NlUWY,TDC~C5b@xSmL_$._-8^!0=?R_M[d435RQrIKY~$S&S*B5f)XU
 _eeT.l^wb+zN',Dw+&5OgJ&iI3~-Fj5ty)[Sd`dDtguRn(.kklO?2[R<''U+suu.YT,J4::)$3Lvn5[qVOibmW>ys?kDFja6Bt#
 LCldz`zZ]0(8bIm3PXT~']gt|0;y;UI8I^&nhZs8f)R7'u%[!H^q']+He_a=`:Xegh**Ec)^psoJfrx&Lt:,4=Z2WlSs#N+(VDQ
 rodXO)!N$(xs-UbT*2Zo<6P6P66&Ayv5R;Fo#.TY:dnSK*m+GNw$[BT5>cn;&d5pY/8HNQz2CXx5^ST'rD9n4e`wVU0#ic!JW<J
 $h=?NV8rGnz,bH_(pNt,3WeLlj&`L~nX:5g4jf|r1yt:&AyN;[Mxe27q%1+!JM9vc,oimlgj~6M!3'9F3uKTP*8pMa&MP5UJiRl
 |cD^T5ZF_eJ:gMwUe3w;nUnCZ10RpYZX~mxX+'D/F+!H)kaiNJDgKON&Go(T+l9am?wy@GOse<NoJvmK66_@;=J||o^2U.kz1ms
 !>*Dgv<mYe^Havor+'gR@bsL]i4?2-b[3[`0WT5_dea'6Q%RJz#~4Gd320mW=9Kr)Dn.t?=HE=?$,,5aYs!E*]<Y1g.M8'f;uX3
 `g0W=9]ParG_+G#wuZ*zGX4!kW6N3UYUS7U`*&uz%E/T#Lly[3X9SMyEx1<Nijp3=c+;gK<b^ZvM:26?In#ZSw3to^9Y7Q%T!d:
 t;.!ok>H!qxun4*6/I5]2d@P#A|VO4Bfc&aWwM,|[iU4DQ!Q+lJ6z77G3(~(0:C*1PalvT|0=,^t6S>Kku7.Oj(?,:52~dCimRR
 RCv<dOd.w69cjY*OHvx>VBlh*(Xz;-Vn!8T!UX5J1,hHVx(I71Rma0[,yV2AY4'`|=X2|v7#8W2UwM)lEYmF0xXyAK(Q<.3=iKm
 x6(o'1O[`#sigs+Oca6~iJyj(F*1f]r[peh)2fG4:$.`7N`g]N7^&ejU)vr3+]Lu3Q%?<v;aX+YBPfuJo&nu_DUBUiya&85yf@k
 S<gO@yi>]$Y'06fQ2YdT@cNz#9J1~`.QhU7gg^zE^jK#p,rfLy&8gEetHXbuujkGb2vua+FX#?gO'jye4G0$15`N.[HIo7*_H>!
 ,Wjx;6[ho`Kd1]&R1UyG#SSG.t>NshFTDUhm+xNhKA%lw.fS`gmJ4&3zN6@K5:T(5vx?~D3-h%9WE5xA.28BIZ<B+hGeAktk=B5
 g_^)0z^F:xUJO9qc=EXuFB4:2p#8V3P|Uz+q>y$sfQ8o'V'vW2rLm4@/qW@44g)mA<Q[?|lO$rULe.[P+pd9vtbk|p0Z%DPh>Zu
 lbVwbI%`1KiaNn?(m8QF:[QF,*6hrid$`Z%'7K%-?wcED=q^ukXWHY(c@(nUM[Jbx|mcY(IJ*9V0E]:4r/sB_[I1)nk;4N+`xgj
 Q-R82MEGXu_Be4ZZQz5]~F+sI]1nu,zhe@$9g|T5HeIy?EoR)RUI5-HWK;P;^Pq/$`/2K>pIj@~o#HbNK6WF3V/_Rp.z4j8,.[U
 O;auEZ~H6J]bcUn3z7dabY=H84FDOwf0Y'yk$|w.H1zuaH2^^$L;oM^*6#^~J1[e,Ml&>_nOlrVZWGza;^qQ!$ZA9XI-66T*nAR
 E&lJ!LMFBR!t`JWgB/K~,*f3:^`X$e:d!WCX)%j7%;1r`h|ZGT?f&fw^h/!&'(%xPv5O!h<Y^TpYBisk;8yLY2.x6j5>Nt@nJTd
 O$mXb[aUgyhF^z/9r,D#h44((CDD)?T`)VXvDm]43eaK:SENk6EjQ[jNBWfqo7KD9yDt@e]6eiJ4Y.uX5bqS/-68jiB&W:%+u?-
 BRnY4P:z9l>z0U^p4H1>$r?`Hke^T~T^2Um99|#E=LG<)gT,xt:n2tmlr0hgiAN8:$kifqc>orhWPvgMHlq`1y*~J*xNPa=V]89
 QYT%WT:#iOh>TWvX'3Z<W(ie]s6]4BrTo!c![oF)P$Xk9_f*EO&99rc!N??D'nV!N2JrGv^&54=d[!AIU4Zn3uJCE>NMR$`FfuZ
 2`yWsSNw"

def half (i : Nat) : String := halves.getD i ""

def ascii : CodePage where
  names := ["ascii"]
  aliases :=
    ["646", "ansi_x3.4_1968", "ansi_x3.4_1986", "ansi_x3_4_1968", "cp367", "csascii", "ibm367",
     "iso646_us", "iso_646.irv_1991", "iso_ir_6", "us", "us_ascii"]
  upper := String.ofList (List.replicate 128 undefinedChar)

def latin1 : CodePage where
  names := ["charmap", "latin_1"]
  aliases :=
    ["8859", "cp819", "csisolatin1", "ibm819", "iso8859", "iso8859_1", "iso_8859_1",
     "iso_8859_1_1987", "iso_ir_100", "l1", "latin", "latin1"]
  upper := String.ofList ((List.range 128).map fun n => Char.ofNat (n + 128))

def ofUpper (upper : Nat) (name : String) (aliases : List String) : CodePage where
  names := [name]
  aliases := aliases
  upper := half upper

def ofHalves (lower upper : Nat) (name : String) (aliases : List String) : CodePage :=
  { ofUpper upper name aliases with lower := half lower }

def page437 : CodePage := .ofUpper 48 "cp437" ["437", "cspc8codepage437", "ibm437"]

def all : List CodePage :=
  [ascii, latin1,
   .ofUpper 0 "iso8859_10"
     ["csisolatin6", "iso_8859_10", "iso_8859_10_1992", "iso_ir_157", "l6", "latin6"],
   .ofUpper 1 "iso8859_11" ["iso_8859_11", "iso_8859_11_2001", "thai"],
   .ofUpper 2 "iso8859_13" ["iso_8859_13", "l7", "latin7"],
   .ofUpper 3 "iso8859_14"
     ["iso_8859_14", "iso_8859_14_1998", "iso_celtic", "iso_ir_199", "l8", "latin8"],
   .ofUpper 4 "iso8859_15" ["iso_8859_15", "l9", "latin9"],
   .ofUpper 5 "iso8859_16" ["iso_8859_16", "iso_8859_16_2001", "iso_ir_226", "l10", "latin10"],
   .ofUpper 6 "iso8859_2"
     ["csisolatin2", "iso_8859_2", "iso_8859_2_1987", "iso_ir_101", "l2", "latin2"],
   .ofUpper 7 "iso8859_3"
     ["csisolatin3", "iso_8859_3", "iso_8859_3_1988", "iso_ir_109", "l3", "latin3"],
   .ofUpper 8 "iso8859_4"
     ["csisolatin4", "iso_8859_4", "iso_8859_4_1988", "iso_ir_110", "l4", "latin4"],
   .ofUpper 9 "iso8859_5"
     ["csisolatincyrillic", "cyrillic", "iso_8859_5", "iso_8859_5_1988", "iso_ir_144"],
   .ofUpper 10 "iso8859_6"
     ["arabic", "asmo_708", "csisolatinarabic", "ecma_114", "iso_8859_6", "iso_8859_6_1987",
      "iso_ir_127"],
   .ofUpper 11 "iso8859_7"
     ["csisolatingreek", "ecma_118", "elot_928", "greek", "greek8", "iso_8859_7",
      "iso_8859_7_1987", "iso_ir_126"],
   .ofUpper 12 "iso8859_8"
     ["csisolatinhebrew", "hebrew", "iso_8859_8", "iso_8859_8_1988", "iso_ir_138"],
   .ofUpper 13 "iso8859_9"
     ["csisolatin5", "iso_8859_9", "iso_8859_9_1989", "iso_ir_148", "l5", "latin5"],
   .ofUpper 14 "koi8_r" ["cskoi8r"],
   .ofUpper 15 "koi8_t" [],
   .ofUpper 16 "koi8_u" [],
   .ofUpper 17 "kz1048" ["kz_1048", "rk1048", "strk1048_2002"],
   .ofUpper 18 "mac_arabic" [],
   .ofUpper 19 "mac_latin2" ["mac_centeuro", "maccentraleurope", "maclatin2"],
   .ofUpper 20 "mac_croatian" [],
   .ofUpper 21 "mac_cyrillic" ["maccyrillic"],
   .ofUpper 22 "mac_farsi" [],
   .ofUpper 23 "mac_greek" ["macgreek"],
   .ofUpper 24 "mac_iceland" ["maciceland"],
   .ofUpper 25 "mac_roman" ["macintosh", "macroman"],
   .ofUpper 26 "mac_romanian" [],
   .ofUpper 27 "mac_turkish" ["macturkish"],
   .ofHalves 28 29 "cp037"
     ["037", "csibm037", "ebcdic_cp_ca", "ebcdic_cp_nl", "ebcdic_cp_us", "ebcdic_cp_wt", "ibm037",
      "ibm039"],
   .ofUpper 30 "cp1006" [],
   .ofHalves 31 32 "cp1026" ["1026", "csibm1026", "ibm1026"],
   .ofUpper 33 "cp1125" ["1125", "cp866u", "ibm1125", "ruscii"],
   .ofHalves 28 34 "cp1140" ["1140", "ibm1140"],
   .ofUpper 35 "cp1250" ["1250", "windows_1250"],
   .ofUpper 36 "cp1251" ["1251", "windows_1251"],
   .ofUpper 37 "cp1252" ["1252", "windows_1252"],
   .ofUpper 38 "cp1253" ["1253", "windows_1253"],
   .ofUpper 39 "cp1254" ["1254", "windows_1254"],
   .ofUpper 40 "cp1255" ["1255", "windows_1255"],
   .ofUpper 41 "cp1256" ["1256", "windows_1256"],
   .ofUpper 42 "cp1257" ["1257", "windows_1257"],
   .ofUpper 43 "cp1258" ["1258", "windows_1258"],
   .ofHalves 44 45 "cp273" ["273", "csibm273", "ibm273"],
   .ofHalves 46 47 "cp424" ["424", "csibm424", "ebcdic_cp_he", "ibm424"],
   page437,
   .ofHalves 49 50 "cp500" ["500", "csibm500", "ebcdic_cp_be", "ebcdic_cp_ch", "ibm500"],
   .ofUpper 51 "cp720" [],
   .ofUpper 52 "cp737" [],
   .ofUpper 53 "cp775" ["775", "cspc775baltic", "ibm775"],
   .ofUpper 54 "cp850" ["850", "cspc850multilingual", "ibm850"],
   .ofUpper 55 "cp852" ["852", "cspcp852", "ibm852"],
   .ofUpper 56 "cp855" ["855", "csibm855", "ibm855"],
   .ofUpper 57 "cp856" [],
   .ofUpper 58 "cp857" ["857", "csibm857", "ibm857"],
   .ofUpper 59 "cp858" ["858", "csibm858", "ibm858"],
   .ofUpper 60 "cp860" ["860", "csibm860", "ibm860"],
   .ofUpper 61 "cp861" ["861", "cp_is", "csibm861", "ibm861"],
   .ofUpper 62 "cp862" ["862", "cspc862latinhebrew", "ibm862"],
   .ofUpper 63 "cp863" ["863", "csibm863", "ibm863"],
   .ofHalves 64 65 "cp864" ["864", "csibm864", "ibm864"],
   .ofUpper 66 "cp865" ["865", "csibm865", "ibm865"],
   .ofUpper 67 "cp866" ["866", "csibm866", "ibm866"],
   .ofUpper 68 "cp869" ["869", "cp_gr", "csibm869", "ibm869"],
   .ofUpper 69 "cp874" [],
   .ofHalves 70 71 "cp875" [],
   .ofUpper 72 "palmos" [],
   .ofUpper 73 "ptcp154" ["cp154", "csptcp154", "cyrillic_asian", "pt154"],
   .ofUpper 74 "hp_roman8" ["cp1051", "ibm1051", "r8", "roman8"],
   .ofUpper 75 "tis_620" ["iso_ir_166", "tis620", "tis_620_0", "tis_620_2529_0", "tis_620_2529_1"]]

end CodePage
end DroidAudit.Text
