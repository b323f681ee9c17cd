import DroidAudit.Text.Packed

/-! Letters, digits, marks and the other character classes that names and words are made of.
The tables list the code points of each class as closed ranges. -/
namespace DroidAudit.Text

/-- Letters of every kind: upper case, lower case, title case, modifiers and the rest. -/
def letterRanges : List Range :=
  rangesFrom 0 <| Packed.numbers "
 !!%s7,VbIVw118>x?K-#c;:t|dPFA$%!bD-$Oui.Du1CaTr,J>tbXSyzZHa8Fb:)*aYf,E,^K,AG&',m0n[u4?Tc30P//bAK()V
 QfYuCGQ~me~(AgWPw@(4E`M8+Pq.@.?;g&<UDM.GESSfL'Kb;>=7ND8JhSI@7%^u#6[Dr+@gw/Xh&G(.qH_19q6Flv]^<wg-&gC
 $$|Ke*ERKfvEe`*to?xR^VXtvGophYCA'Z_vhLG)`f5+>Bm^4U=ii,b)[(zFDueS@85`~Yo--nRHM$wD=Vg_^|~(I[g.T2%-WJN
 (;dr(e|zEnQhsFf'gx./*fcol&@P&W7Tj*pF5e+_ao]hAWHQ/*(rDS,+kid9;f@N&P|?;Wh4Y>p,ZcV*Z8%sOmw/HhI<&1!ORGH
 ZI#%>LWLgV]fT4M;<ooBn>f,if/lxH=s:Sf1YzW]K'1GZV%kxr[']M7q?y;_zdd*dcIJfXLcmJT-=)Ex84+%]`B%RR8W>3a>QcQ
 J?Sg/UU^R/b$=:v;GJt.5f&ztC`=:PPq!~>]Gk^q'c7T4Z:MGje(sYCf;<QvFS]i-d'>v9.E@HN&lkX3:7;Yg]sjv-p/<JZf'6z
 Xcj=S$5l@;/zrRfGmb4=VY@D6*`qx6kO`FiUL0'_ue59_n>yGVOe(l)9va3:z!CPKq4wL:n-*~B;YHZOP(Iqg4W`=)|c<XI*BnM
 dT@<GfXz(j1|EC[`(`;>z$x0ri.LLY#iNY)`ym1<`B05|d.xiil;epVwZy]ic>ZV?.eU_zN*hnMDOF=wa`<Oa>+uQcwO%C,]W.F
 _PE6=[;)TOvL1w-~Gnib'WZ]>IX/:wD*6or^:lHq:=9r)Dw^fl>^FG&?6Ks9eYym<48kE8C-!EL1NaR~JYF,<6AF~JA^w`c;d^m
 y2>_7c[;CwfcG&i'@?ux5*OvXo%8y@|~$1w+peJX573a@st(z:~B-n_k*yR$rziM`Wf8AiWB|5!%4%9L(iy]C5V24(rD#n;yPn!
 tn[0uypt$RrAEtuHa/4GKW8/BQhdTWDeZ#8y+'a!Vg(2l:wtuyi=]@.aXWN?JDs50n#i@Z*#&e`&=v]*56*ZsmC2|4EdtdVsYd+
 $l(@Ms168cb(&-D!Axp3J>k&6v&bGCO>rwBz<vPQ,1YsVC=Y~p!]K3f@kY.<tohSb,SLUBvepZf^EsU#yJ^f?V;$V(?fUQ*&^i`
 _yh%$yb+b7Vah9'=,j!o+8w#%>~/%$hv|`td)8N*gljP'IiQ:7w=#V02[MzCRZ>`30X33VI8%cxy#W+Ngmfx1vp^KJgm(-nZ95c
 qM&S=q+5NxzVUs&"

/-- Numbers that are no letters: decimal digits, letter-like numbers, superscripts, fractions. -/
def numberRanges : List Range :=
  rangesFrom 0 <| Packed.numbers "
 !!%s*p6=ixr,QX?.4E5AGiA|38:$J$^Y91.U.nxn:^(Ig@un%Rg`$TMe^++%0x2MjNxbv&g571D7@IO+|aV+Lt'%kVqBF2L=s.?
 ?ipTnl'rJ9NXqwC;]qV;m,o2+T~N*|3*8;0OUYJ_X03Rb'[BTE#0L`GKxhp2Y)Jz%6^O|-w$,sTw0cxk6H$FzFyw3u2BMo<$FLG
 wlW^ebFP/mJ[G+ki(4=XsUN@zc~/KVEvOTDzB+seDZ%Owhv?Ziu^;2*^wz$D:qq)%W:K~tyvni4J<*!G/-VF8S2gJR7)L;~N3nQ
 i_?,Fi<*=M:Y2+JfO9WKdX|r1C5gquGV.T]IaWPRDZ*:!&$yw>C>H.sh3fg%U?!gSF[n1Tz`g?$)rex~P$BP'H[UPu.Xs_(;q?f
 e%)+dGsdw?P0sGQ-rlqnI(TXX[jkY(c.O:Po(#=M?hd6>"

/-- Numbers written with letter-like signs, such as Roman numerals. -/
def letterNumberRanges : List Range :=
  rangesFrom 0
    [5870,3,2671,35,2,4,3710,1,25,9,14,3,30379,10,23120,53,460,1,8,1,134,5,8234,111]

def currencyRanges : List Range :=
  rangesFrom 0
    [36,1,125,4,1257,1,123,1,498,2,498,2,7,1,245,1,263,1,581,1,2459,1,2244,33,34679,1,21955,1,108,1,
     154,1,219,2,3,2,8182,4,49950,1,2480,1]

def connectorRanges : List Range :=
  rangesFrom 0
    [95,1,8159,2,19,1,56798,2,24,3,239,1]

def markRanges : List Range :=
  rangesFrom 0 <| Packed.numbers "
 !!%s7,V`Mw)!W)g.6$Kg~//X!^uMO=B[#$-|*ebk^SiYb~!S[16?ozyp<`y.Aly`imyt63kK&Sm0v<7M,wwXN*US)g*)>%;;j%-
 9]]l~G+[]kX=vuT$OOOT:9yk_RMe]A$D*c$w,[rWv9v/riACRS_aT8-W|zTPj;0@T|E_V+@nt.c/lR'<8wK53b[?u]KFHph!=JU
 J@BBL,^1V&eTL`f?$J2$@%FZe|MyB@?<e/v~.jYJ]n:o0VSs?~]*a!KkvnT`mCt>]:h_sUJ/z'k9kTQ|;)2z,7Ou*g+Y<yflG)P
 eaL8trq-zg6BsI=:[OIc=F7W|P2L)k3kEc$f+4A?;bpp[>lbW?XM8%52hsB`/`ejLVfTEa=f1D,YE/X:RU@|li^eDfjY6Jfomd)
 0kjH6`ZC#2U-xW45SmVzuoMB]AHH~z0^??LT15p]~(9)*1Z;%i)xwlzvtLLF7nHFNb%*V5*pA,jRkPVl,e5*int`n8|_MNBOxT#
 k56o=w?L<Ba]80RaZO%)~Iu?4;lG`0/aZ@beC8H&GYbddx:Q'b#)9Lz,C.%Er-`IR2dBhq=KD~_q&G#GoU,'&fd^GyRSU#'1I^P
 IN7-p.*R6N`aDMqNaw|UY._%-QBFRB8-%MImK?,-tfEuRo|%6GYbZOWNB''9:98wz?]xFkW,oZH=AKg<@V~~6&/b0+I`@/|uxG
 <"

def isLetter (c : Char) : Bool :=
  if c.val < 128 then c.isAlpha else within letterRanges c

def isNumber (c : Char) : Bool :=
  if c.val < 128 then c.isDigit else within numberRanges c

def isWordChar (c : Char) : Bool :=
  isLetter c || isNumber c || c == '_'

end DroidAudit.Text
