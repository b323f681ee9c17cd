import DroidAudit.Xml.Basic

/-! Changing elements. -/
namespace DroidAudit.Xml

def Element.withText (e : Element) (text : Option String) : Element :=
  .mk e.name e.attributes text e.children

def Element.addChild (e : Element) (child : Element) : Element :=
  .mk e.name e.attributes e.text (e.children ++ [(child, "")])

def Element.changeAt (change : Element → Element) : List Nat → Element → Element
  | [], e => change e
  | i :: place, e =>
    .mk e.name e.attributes e.text
      (e.children.modify i fun (child, tail) => (child.changeAt change place, tail))

def changeFirstChild (test : Element → Bool) (change : Element → Element) :
    List (Element × String) → Option (List (Element × String))
  | [] => none
  | (e, tail) :: rest =>
    if test e then some ((change e, tail) :: rest)
    else (changeFirstChild test change rest).map fun rest => (e, tail) :: rest

def Element.withChildren (e : Element) (children : List (Element × String)) : Element :=
  .mk e.name e.attributes e.text children

/-- An element in no namespace with the attribute `name`. -/
def named (tag name : String) (form : Form) : Element :=
  .mk (.plain tag) [⟨.plain "name", name, form⟩] (some "") []

end DroidAudit.Xml
