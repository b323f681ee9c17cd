import DroidAudit.Text.Packed

/-! Characters that a host name may hold as they are: none that are folded, joined or replaced. -/
namespace DroidAudit.Text.HostName

/-- Characters from 128 on, without those written from right to left. -/
def keptRanges : List Range :=
  rangesFrom 0 <| Packed.numbers "
 !!%s7,VbIVw2J=[Tm%r^G?+z_YK?y$~309.vnk8@Y*BgnBAq7Cr_K:ylfPtwiSHC%Fl|YjE$l%W9dLXHrx5ANv9%!dMCSLGQ)7n
 7zu,G<FdoM5;a_TEkki%=!V)r?4aP=(?]HrfsXiU%Y@y3%tyc='tkNPxur>USU%i2Ff=~Bj_lSqrcK>hGo,dVIfRtwd9IPR!hcT
 6089)9BK`v_Aj1LD++^DDjk;Y%wOz8]I)>mh:)^vl&Z(*&+lA]U*7X=l)z`w3VwN2+tmh'QR0k(N5Xxm`4foM,9aMD<'@xgB^Sl
 Fcj6W0m.Lu'|4NwI^6V[Nb+*KQKM_ItG7nu[imM=4^-x]2h4Fuq:NvZi1V!JbDrgar:2w6BhaYk$qniKqVb9GUN+aOTV9TdrxH$
 g*W)%j~TC|'|j=`I1hpCy;LX0UulD'kazeL>SZw|:SqGK>1qt!PsrBF(+~z4>Yp_Cn?CnOWUI(J!kO0FB#Pm@SgU3/4fYhUu,9$
 3^JoJmubINilI_jHi$w[=u/AJ++jA[b,jp``[pyQA~,jPZ|0`uBffR$rqYn_;ju^Vm/E4F=76I3tg?&buk'8-BU%dCIQj1BI=64
 <mWoQ4nVh8K;k~9,6vp=Q98*&V6~TgCRMv<Y2Y/'Ruit8~HS51bVL%&+ZOR(,y:]K?n8OBzX>pd/`?DuCL2hMAqG<;n60:q(kFw
 (q1V7|VdXT/UN<d`lQI,xPfq<l`dn3!%dMZ&9R.ork)6hn)+1BgtGL6>a#`Le*i!lX+w>^26SZ=$qwUHnWBC!!!!!!!!!!!!!!!
 !!!!!!"

def leftwardRanges : List Range :=
  rangesFrom 0
    [1470,1,1,1,2,1,12,27,5,5,38,1,3,1,1,26,5,11,34,3,1,4,4,93,15,2,19,5,1,14,2,1,1,27,83,38,11,1,
     63169,1]

def undirectedRanges : List Range :=
  rangesFrom 0 <| Packed.numbers "
 !!%s7,VbIVw1w6Vi<=R=~_l*;qp>Gmu^j0`ZkZ%-]e`&sGA1rV@YI][sa~!aBSk9qp^V)xm]/<vIpxsCJRjm,?6iOi+o,'86[]5
 tyaT@1(CGRBQ!pNB)c#&yu_FB+B_`*zh5|B~6(7f9?zj|B6,8WIC8H6]y[ntm|y<gKAzj@M<Nb47/Vd=Y2-L#n3Mee,@d;/~V6
 e#r|kp>*MYtp5czIwP?aGz:;fpxV4Gf=Q[MZ.@H4A=QV/]9`(i8FL@jJ*P0eyEit8B8U2TV46mMsVu8(Iy:=Zgi2QqbQZMHS,j9
 lC)lQw]>5`^yvavLWY6680zse.OVggScG?W@GMo#7wY@iGkgM&+nL2+=~+]`-5[B~Ac_-nwm~awE#>QogI*uP3(C.[a_W6hftJt
 sqjcf29QR*Vp3x!^pw$N<h/`3eDYZTE^mj?dK9GI|$&kP~<<3~dJpVW6KuOvSX#-,sJ'[viY8?TS6yS$~_70>InYfJRmQ|m)@l<
 ?]G1ORJe)'+LBu-#$0/kS@FP3qYWWx.dz<`i:t13_fV~t&d008G2NQ,r71(yU0A(+:sy,+X`DEOg%,)|Q&jlpovN;1D@v#,M+7'
 %Byg;kSr'>N6%+(l8Urh?^Au@|;k0.h~)bd[Ta^RIxaXZR'?CiB)E;G2QT80=]nG~l@'oG[D,8b=q8C4aj';B1w>/psIO-SDn;T
 e[!1%BXv03uX'[T;,OxT<(c&p9m&hB9?10n;)H6$z=y4yx5Zw%0n&UbJfyF=P/$V#6C0IoUXK79f3(OPlvz.IZ_dNYP6u3-]<>S
 AD`/?OL`s2nif^.L1^spKg(>2_80iurA|.*<F]0|_LwBpN?+]&'7U?AF@e()H]OsFWq`[RPC-!m#wU/lf$de|'09f_F+PY5S@f9
 !=tXEYD:;<hMd)L8p$r3#=g+@kQm*[?567P.Z+PkJjDQc8S!U@H!qOWj.|/7-fW^K=Mx#o@~@AHk"

def isLeftward (c : Char) : Bool := within leftwardRanges c

def isKept (c : Char) : Bool := c.toNat < 0x80 || within keptRanges c || isLeftward c

def isRightward (c : Char) : Bool :=
  if c.toNat < 0x80 then c.isAlpha else !isLeftward c && !within undirectedRanges c

/-- A label with characters written from right to left has no others, and starts and ends with
such. -/
def keepsDirection (label : List Char) : Bool :=
  !label.any isLeftward ||
    (!label.any isRightward && label.head?.all isLeftward && label.getLast?.all isLeftward)

def isProper (label : List Char) : Bool := label.all isKept && keepsDirection label

end DroidAudit.Text.HostName
