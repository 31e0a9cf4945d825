import FileShare.Host.FileSystem
import FileShare.Text.Lossy
import FileShare.Wire.Message

/-!
# What a share tells about an entry

`Stat` is what is known about a file or directory of a share, before it has been given the name
under which it is reported. Its attribute bits say whether it is a directory and whether it is
hidden; nothing on the wire says whether it is a symbolic link.

A share reports when an entry was created, and where it cannot tell, when it was last changed. The
file systems here keep no time of creation, and 0 stands for it. It is passed on as it is, and
nothing is decided by it.
-/

namespace FileShare

/-- What is known about an entry of a share. -/
structure Stat where
  isDirectory : Bool
  /-- Set only where links describe themselves. -/
  isLink : Bool
  hidden : Bool
  size : UInt64
  createTime : Int64
  modifiedTime : Int64
  deriving DecidableEq, Inhabited

namespace Stat

/-- The attribute bits of an entry. -/
def attributes (stat : Stat) : UInt32 :=
  (if stat.isDirectory then Attribute.directory else Attribute.normal) |||
    (if stat.hidden then Attribute.hidden else 0)

/-- An entry as it is reported under a name. -/
def toFileInfo (stat : Stat) (name : String) : FileInfo :=
  ⟨name, stat.isDirectory, stat.size, stat.createTime, stat.modifiedTime, stat.attributes⟩

/-- What a file system tells about the node with a given name. The time of creation is not known
here, and 0 stands for it. -/
def ofNodeInfo (name : Name) (info : NodeInfo) : Stat :=
  ⟨info.isDirectory, info.isLink, name.isHidden, UInt64.ofNat info.size, 0, info.modified⟩

/-- What is assumed of a directory about which nothing is known. -/
def bareDirectory : Stat :=
  ⟨true, false, false, 0, 0, 0⟩

end Stat

end FileShare
