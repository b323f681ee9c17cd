import DroidAudit.Text.Packed

/-! Lower case. Most capitals move by a fixed distance within a run of code points; the capital
sigma depends on its neighbours and the dotted capital I becomes two characters. -/
namespace DroidAudit.Text

/-- Runs of capitals: first, last, stride, distance to the small letter. A run is given by how far its
first capital is from the run before, how far its last one is from the first, the stride, and the
first small letter. -/
def capitalRunsFrom (point : Nat) : List Nat → List (Nat × Nat × Nat × Int)
  | gap :: length :: stride :: small :: rest =>
    let first := point + gap
    (first, first + length, stride, (small : Int) - first) :: capitalRunsFrom (first + length) rest
  | _ => []

def capitalRuns : List (Nat × Nat × Nat × Int) :=
  capitalRunsFrom 0 <| Packed.numbers "
 !!%s7,Va0?>dsh8T6k[/LFA0Tpxkf;>.I:#EZ3n:M&e0:wfl5QBvJMzYyFxic2x.6dnm=T/#X@1vi`8g2qT#AWsL]+gBh,vXujo
 MeL%?+!0JM!r/6Wo'LpK'MVz.wt`r1gRgt.?:7^x>8`_mP/AN81j!OzOc?%!i%yVI>s#GAVc0s,6e|1z@jUIyaBc`O__H-o''D`
 rO<Bi|tIF'x^Vba#Jq0y*--,$*aO8,GsaMAqa`DWheh~fL7^&U=<VeT,e.(xSeAM[x;VyD*<|NyV=Q`giLs2~T[w:F+Ny|FufM&
 evF$]h7heK#4y^U;H'epo(Er18uV$'R#NzaQO]D)J<2QRE]#]^UIuM|U)q`)!v+0I~1*<MicQraFH8JgC$QW2Wq*R9[:X*.+`/Y
 XjLgRSSl%Zy652Zq]H5;eKBS#?Ux;*-Q[UkU/pS>ymDU&-n8d(Y(0i6CBw1-/5Jfo8RJmJ(64&.x38or=0GB89,`MRA`G#XhsCH
 o'p)N*J+MElEdVKXP;l,mEow9geCf(_EqHijpUusdCv?uqhDJ`Y+%I_<p+Dw!nO8-bAf)h.zeM)fCsy>Ox)PCxCwK[tC.Xi?rrW
 :ek6Pg+,f.T>75eTtKJz/R79@:.`se_k7fy5j)%<:3~ouAJZ$RLJ[61)2*@L$c(Jr1[-MI]A8,5e;0^Eh!XS'vY*&UZSi0]jf?_
 jU18iC$WJ$6SJvDL4'HFC/Yk)~mjUlqIyo-]WH?xK)ZpoT#iPI0$2Q8NW]#BgTb<0jX!vpY(NsHF|0dj*?c>"

/-- Characters that have case and are not passed over when a neighbour's form is chosen. -/
def casedRanges : List Range :=
  rangesFrom 0 <| Packed.numbers "
 !!%s7)O04nY5O]lz$=u-7T-i[X=%fVcM=Jol;Qfsqt-lE,M7KD#`O-,Bc<z(0'M&IYrZ_lT-oak|[3&450yHXt]9b5Vs@DmG%z'
 :gr=VB8(A%]uf5j-q?K.(,nV#v@^%/z-<5^3E>V&h~/*KIUzXpIfgbzBL]8H/G(D75iuAV|.$E=*<2M(&q/$niAeX'Iam?s@0M]
 U^DIr:*@#,|BPCuH)i#vZ9JK1fFkc?]xHAH~&V.B^il^fAb<AE,NJK/-vDfdP3v+k*4]<q,W]N0aWj2R`2FkAvF=3IuPvFQ$W!j
 8_js6r;ui.fiJ_o3f,JQ&7/r'c*H|LW-J[^mlX`5^yqt(#ISXF%`LQe|4cQv%:/u4=2&yP(]'[FEY!qJJ"

/-- Characters that are passed over when a neighbour's form is chosen. -/
def caseIgnorableRanges : List Range :=
  rangesFrom 0 <| Packed.numbers "
 !!%s7,VbITWwK4olKA/~y49^yf2:LYJcR]8<oNAJ%65js$JVg9e4n6t.OhN4KOi11~RPVduA(.>.]L7vl3DlM3.t)YHzRq]bE>q
 !>zdUiiw?7#UKp_Jni-a0pl2fd/3x&pydc>4)H^dOsomUy0=.J6ICsdpQlS_[oW&D$>H2Gd4B4::X0p:-.Hj`ln'/F.GLrD-^_s
 ~@lZbnxB8sr.HrTjtavd?LmPZ0ipjl-~(XfxTUjW=w]Bb3.7rmVG?Q,/9wWmHeEIRBk7U?kHeOTQTb,PZY]Q9^0bnT$0)ZW%hO'
 [Or&=p~fl9|+xoh4&A(W`sPmwu_rPEK^aGW6^Q$4frbBRa:u)t1d$BaVlLOLG%m`c!b;]V.g<9/b~lei&T8yZR5sKdp'c,t:_v/
 3rT.!IIG&W]U);YJ;gw3.gT!:yr&IOGr3oD2VT18pE?I$I'!),uCS=;e^DyM]fpvr]Grw/BBB%0ARcC+|9T=a+ZP)ca/a*ml/pI
 ~m1VuGm5j!(i-O-t4b)rI+$P9IlI),:R!O'cvwNZ~h|[=S;q)>NI5vq?k&47+>HGgzw>6L?>9dm(JZbQ8&4uNg8VhMefZdA1[UB
 TY0K8A!m-G|Vt%_C-H?4kY;>jUg[paGKUW|[>qHsu9Q1a^g%6GyQC^pX!hqr`Q6R0PH_C1=ingSZIf]LI]y5(^1acT&GOin6$RR
 G^6ND'+;kU@;/IL;x=?=UAS?H|REJ;gS@:W2T5&R,M</HyiaF&]k#M&DfgT.'2XdbScS8f_]OhZtKP(yI#*?EZFlKRT4V,NA$IJ
 a^:sDD,)_BPJ0uc`m#GB~XN9EAM;2Me5LU3D*4jpjW+[RbKEN72LVwZz?E89~'U,atRXS&w:^%?J0?NP|%SQ7:j.5v@je9vcZOu
 cFczSB$hB)q*"

def isCased (c : Char) : Bool := within casedRanges c

def isCaseIgnorable (c : Char) : Bool := within caseIgnorableRanges c

def lowerChar (c : Char) : Char :=
  if c.val < 128 then c.toLower
  else
    match capitalRuns.find? fun r =>
        r.1 ≤ c.toNat && c.toNat ≤ r.2.1 && (c.toNat - r.1) % r.2.2.1 == 0 with
    | some r => Char.ofNat ((c.toNat : Int) + r.2.2.2).toNat
    | none => c

def caseNear (cs : List Char) : Bool :=
  (cs.dropWhile isCaseIgnorable).head?.any isCased

/-- Lowers `cs`; `before` holds the characters already passed, nearest first. A capital sigma
that ends a word takes its final form. -/
def lowerFrom (before : List Char) : List Char → List Char
  | [] => []
  | c :: cs =>
    (if c == 'Σ' then [if caseNear before && !caseNear cs then 'ς' else 'σ']
     else if c == 'İ' then ['i', '\u0307']
     else [lowerChar c]) ++ lowerFrom (c :: before) cs

def lowerChars (cs : List Char) : List Char := lowerFrom [] cs

def lower (s : String) : String := String.ofList (lowerChars s.toList)

end DroidAudit.Text
