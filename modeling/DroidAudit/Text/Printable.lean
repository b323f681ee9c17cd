import DroidAudit.Text.Packed

/-! Characters that are shown as they are. All others (controls, formats, unassigned code
points, separators other than the space) are written as escapes in quoted text. -/
namespace DroidAudit.Text

def unprintableRanges : List Range :=
  rangesFrom 0 <| Packed.numbers "
 !!%s7,VbIVw2J5N>5kQ6e6,b)<robgq,>-7!'O.7yOZi6mBCy#<d/?rJbOv-ohADDTAhNsVzz+*yIuw#Si9f9rL3I_wzY/KO1J&
 A-1r1<P#%]%U/o)IZ:WLtj0'RAzeBySY5j|02%P`oz/]-cs>^^%FRxdNS&9KF-DkDyMw|IhUxg$<jCkcQkJf$YA-MCG<cZd1(bM
 &;^IUfcc6?y68;LM2lo?`K%.4o=3>#%[<9tiEF7)i/lW)fCy&[.*.fS`Z;JzO?3A)F(Q7+|9e<W/!8r<1?Fn<C]URqU]y46Y1tQ
 [<Wj$?Rlg)~xTtEXbKN`WiuLc<#7d8P)3+vKX_I&g..1<nG>eJk05x#7J!S|I~Lg:2%Xv?#+W_h&>~WNw3m3A?;c]@MtVjGe0Tc
 DxN1u4JAb$XCs]?:t`29`@x+3S52GU2=<_PGCm:Eq9r^4BsDG>to^'>tj+6F@<Ct!k=7,b~0Ovp:[]EwSxN-XqrJsl1MTx]9V,l
 |qtjxSRA@<c-*.2R05N4XqQ<nhf?CyjF']2HY0G@CUs.zR]4=dAb$VLS)z5)q&v7GoQ&ifA&5e.UT^g?nv-@0i!g!xyUF=%?R`Q
 PTwUwg51@'F#Isy<yIzndglT4P)mHNu#s;>&=eF?=Uea(]O|:pN`EapAG:p'CuveEHqbt3z+RU.-95Hk>0g9qw'<dpx&:h!ewm)
 QVfe%8!1ksNWkT1lvm:NydNC7EA>`2FvP3-VS<M@y/4>od~#@)&-[^D,AJWWEBC3)>Trr8;,lhOQPl+OR`1vh:XA`'DL>m-2pd^
 nJ^pFyb%8M>nTrryS5]c=$/94HY2j|y.AZ's?T[<L`1dbE5haTc/8ARscAjjshoLL7o'.KLJ*jB2@sIOXmNCCYv|7Y60woZWA6_
 vs<8,F1N1r<'R37'cyLRS_;>!elM;tjs'>386xVG1nSG%-2#tqwB~0MG):DW~xNnrSR:+`Z=`c%<PUB_o:?Tz-NLuF.G5YK[Z_7
 p.AiXJ%[:t4w(/MJWI$-q=LQ!_G%=qfe](M4[~Tgqp2dX7FdpG4_L0wv;8w@!Tna7lHT?0fF*-2/BOM>#6IlL9K+_%.vcJM4jWD
 2A4-1J41*GH|s!*4A^&$DA3U%g58AI!-e6*j%KGL*`GtV:WHTp(8Y@x)Xm/b=b^>s&2)S2P(LD41qq&:odSNR)^Hhw^]>f#HqG%
 L^/[#dgKr_;>ZX&E+s_5E(1Nt/XmghNt/mFzV$DF&1u~QqeG3UHdF1:)IqdV9SKS6a4Y%[Pt+`?WuV,3TVs:]I15(AVN-/v1E1H
 kz^z*6;tF/|+sNAdp#Ip]NaOJ.Xi/LSrXhac#%E9IJ^dd|x*/B)Dxxx>.C,IaVc]lh!Q~]Di|;0cJ`a'MPhGjMY5_4Bt@/m^CxM
 >wpolA!WJ$U=d?npd`_(w+^sC*O8Y(m^1v?TeJ3Aji"

def isPrintable (c : Char) : Bool :=
  if c.val < 127 then 32 ≤ c.val else !within unprintableRanges c

end DroidAudit.Text
