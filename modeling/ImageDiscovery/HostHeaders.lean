import ImageDiscovery.Mapping
import ImageDiscovery.Text.Blank
import ImageDiscovery.Text.Quoted

/-!
# Host headers — what to tell which server

Headers are configured for a host, or for a host and a port, and go with what is asked of that one.
A user gives one as `host=Name: value`.
-/

namespace ImageDiscovery

abbrev HostHeaders := Mapping (Mapping Text)

namespace HostHeaders

/-- A host, the name of a header and its value, each without the blanks around it. -/
structure Entry where
  host : Text
  name : Text
  value : Text
deriving DecidableEq

/-- Reads `host=Name: value`: the host ends at the first equal sign and the name at the first colon
after that; neither may be blank. -/
def Entry.ofText? (t : Text) : Option Entry :=
  match t.cut (.char '=') with
  | (_, none) => none
  | (host, some header) =>
    match Text.cut (.char ':') header with
    | (_, none) => none
    | (name, some value) =>
      let entry : Entry := ⟨Text.trim host, Text.trim name, Text.trim value⟩
      if entry.host.isEmpty || entry.name.isEmpty then none else some entry

/-- Adds a header; a header of that name for that host takes the new value. -/
def add (headers : HostHeaders) (entry : Entry) : HostHeaders :=
  headers.insert entry.host (((headers.get? entry.host).getD {}).insert entry.name entry.value)

/-- Reads options one after another, up to the first that is none. -/
def ofOptions (headers : HostHeaders) : List Text → Except Text HostHeaders
  | [] => .ok headers
  | option :: rest =>
    match Entry.ofText? option with
    | none => .error option
    | some entry => ofOptions (headers.add entry) rest

def badOption (option : Text) : Text := "Expected HOST=Name: value, got " ++ option.quoted

end HostHeaders

end ImageDiscovery
