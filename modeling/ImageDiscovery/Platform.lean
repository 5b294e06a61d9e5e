import ImageDiscovery.Text.Case

/-!
# Platform — the labels of the machine at hand

Apps are looked for with the operating system and the architecture of the machine, unless they are
given.
-/

namespace ImageDiscovery

structure Platform where
  system : Text
  machine : Text

namespace Platform

def osLabel : Text := "os"

def archLabel : Text := "arch"

/-- Architectures that go by several names, and the name that images use. -/
def archNames : List (Text × Text) :=
  [("x86_64", "amd64"), ("amd64", "amd64"), ("i386", "i386"), ("i686", "i386"),
    ("arm64", "aarch64"), ("aarch64", "aarch64")]

def os (p : Platform) : Text := p.system.lower

def arch (p : Platform) : Text :=
  let machine := p.machine.lower
  ((archNames.find? fun (known, _) => known = machine).map Prod.snd).getD machine

end Platform

end ImageDiscovery
