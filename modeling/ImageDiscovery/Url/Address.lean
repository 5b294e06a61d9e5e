import ImageDiscovery.Text.Basic

/-!
# Address — hosts that are numbers

A host of four numbers is an IPv4 address, and one between brackets an IPv6 address.
-/

namespace ImageDiscovery

namespace Address

/-- A number of an IPv4 address: at most three digits, no zero in front, below 256. -/
def isOctet (t : Text) : Bool :=
  !t.isEmpty && t.all CodePoint.isDigit && t.length ≤ 3 && (t.length = 1 || t.head? ≠ some (.char '0'))
    && t.foldl (fun n p => 10 * n + (p.toNat - 0x30)) 0 < 256

def isIpv4 (t : Text) : Bool :=
  let octets := t.split (.char '.')
  octets.length = 4 && octets.all isOctet

/-- One digit or more. -/
def isNumber (t : Text) : Bool := !t.isEmpty && t.all CodePoint.isDigit

/-- Four numbers with full stops between them: a host like this must be an IPv4 address. -/
def looksNumeric (t : Text) : Bool :=
  let numbers := t.split (.char '.')
  numbers.length = 4 && numbers.all isNumber

def isGroup (t : Text) : Bool :=
  !t.isEmpty && t.length ≤ 4 && t.all fun p => p.hexValue?.isSome

def groupCount : Nat := 8

/-- The groups of an address without its gap: an IPv4 address at the end counts for two. -/
def countGroups (groups : List Text) : Option Nat :=
  match groups.getLast? with
  | none => some 0
  | some last =>
    if .char '.' ∈ last then
      if isIpv4 last && groups.dropLast.all isGroup then some (groups.length + 1) else none
    else if groups.all isGroup then some groups.length else none

/-- The groups before and after the gap, if there is one. -/
def splitGap (t : Text) : Text × Option Text :=
  match t with
  | [] => ([], none)
  | [p] => ([p], none)
  | p :: q :: rest =>
    if p = .char ':' ∧ q = .char ':' then ([], some rest)
    else
      let (before, after) := splitGap (q :: rest)
      (p :: before, after)

/-- The groups of a text; none if it is empty. -/
def groupsOf (t : Text) : List Text := if t.isEmpty then [] else t.split (.char ':')

/-- Eight groups, or fewer with one gap, and a zone that may follow a percent sign. -/
def isIpv6 (t : Text) : Bool :=
  let (address, zone) := t.cut (.char '%')
  let zoneFits := zone.all fun z => !z.isEmpty && .char '%' ∉ z
  let addressFits :=
    match splitGap address with
    | (whole, none) => !whole.isEmpty && countGroups (groupsOf whole) = some groupCount
    | (before, some after) =>
      let hasDot := before.any (· = .char '.')
      match countGroups (groupsOf before), countGroups (groupsOf after) with
      | some m, some n => !hasDot && m + n < groupCount
      | _, _ => false
  zoneFits && addressFits && .char '/' ∉ t

end Address

end ImageDiscovery
