import DroidAudit.Archive.Basic

/-! Writing an archive whose members are stored as they are. -/
namespace DroidAudit.Archive

def Member.nameBytes (m : Member) : ByteArray :=
  Text.encoded (String.ofList (m.name.toList.takeWhile (· != '\x00')))

/-- A name that is not plain ASCII is marked as encoded text. -/
def Member.flags (m : Member) : Nat := if m.name.toList.all (·.val < 128) then 0 else 0x800

def Member.facts (m : Member) : List UInt8 :=
  numberBytes 2 20 ++ numberBytes 2 m.flags ++ numberBytes 2 0 ++ numberBytes 2 0 ++
    numberBytes 2 33 ++ numberBytes 4 (checksum m.bytes) ++ numberBytes 4 m.bytes.size ++
    numberBytes 4 m.bytes.size ++ numberBytes 2 m.nameBytes.size ++ numberBytes 2 0

def Member.written (m : Member) : ByteArray :=
  ⟨(numberBytes 4 memberMark ++ m.facts).toArray⟩ ++ m.nameBytes ++ m.bytes

def Member.entry (m : Member) (offset : Nat) : ByteArray :=
  ⟨(numberBytes 4 entryMark ++ numberBytes 2 20 ++ m.facts ++ numberBytes 2 0 ++
    numberBytes 2 0 ++ numberBytes 2 0 ++ numberBytes 4 0 ++ numberBytes 4 offset).toArray⟩ ++
    m.nameBytes

def parts : Nat → List Member → ByteArray × ByteArray
  | _, [] => (.empty, .empty)
  | offset, m :: ms =>
    let (members, entries) := parts (offset + m.written.size) ms
    (m.written ++ members, m.entry offset ++ entries)

def write (members : List Member) : ByteArray :=
  let (front, directory) := parts 0 members
  front ++ directory ++
    ⟨(numberBytes 4 endMark ++ numberBytes 2 0 ++ numberBytes 2 0 ++
      numberBytes 2 members.length ++ numberBytes 2 members.length ++
      numberBytes 4 directory.size ++ numberBytes 4 front.size ++ numberBytes 2 0).toArray⟩

end DroidAudit.Archive
