import ImageDiscovery.Url.Loose

/-!
# Masked — addresses without their passwords

Addresses that come from pages may hold a password.  `Url.masked` writes three asterisks in its place,
and if the address cannot be cut into parts, it masks whatever looks like a user and a password.
-/

namespace ImageDiscovery

namespace LooseUrl

/-- The user and the password, if there are any. -/
def credentials (u : LooseUrl) : Option (Text × Option Text) :=
  if u.netloc.contains (.char '@') then
    some ((Url.cutLast (.char '@') u.netloc).1.cut (.char ':'))
  else none

/-- The password, if there is one and it is not empty. -/
def password? (u : LooseUrl) : Option Text := do
  let (_, password) ← u.credentials
  password.filter (!·.isEmpty)

/-- The host and the port as they are written. -/
def hostAndPort (u : LooseUrl) : Text × Text :=
  let place := (Url.cutLast (.char '@') u.netloc).2
  match Text.cut (.char '[') place with
  | (_, some inner) =>
    let (host, rest) := Text.cut (.char ']') inner
    (host, (Text.cut (.char ':') (rest.getD [])).2.getD [])
  | (_, none) =>
    let (host, port) := Text.cut (.char ':') place
    (host, port.getD [])

/-- The host in lower case, but for the zone of an address; `none` if it is empty. -/
def hostName? (u : LooseUrl) : Option Text :=
  let host := u.hostAndPort.1
  if host.isEmpty then none
  else
    let (name, zone) := host.cut (.char '%')
    some (Text.lower name ++ match zone with
      | some zone => .char '%' :: zone
      | none => [])

/-- The port, if there is one; it is a number of at most so many digits. -/
def port? (u : LooseUrl) : Except Unit (Option Nat) :=
  let port := u.hostAndPort.2
  if port.isEmpty then .ok none
  else if port.all CodePoint.isDigit && port.length ≤ Numeral.maxDigits then
    let n := port.foldl (fun n p => 10 * n + (p.toNat - 0x30)) 0
    if n < 65536 then .ok (some n) else .error ()
  else .error ()

end LooseUrl

namespace Url

def mask : Text := "***"

def noHost : Text := "None"

/-- The address with its password masked.  A port of zero is left out. -/
def maskedParts (u : LooseUrl) (port : Option Nat) : Text :=
  let user := (u.credentials.map Prod.fst).getD []
  let port := match port with
    | some (n + 1) => .char ':' :: Text.ofNat (n + 1)
    | _ => []
  LooseUrl.toText { u with netloc := user ++ ":" ++ mask ++ "@" ++ u.hostName?.getD noHost ++ port }

/-- What follows a user and a password, both not empty. -/
def afterCredentials? (t : Text) : Option Text :=
  match t.cut (.char ':') with
  | (user, some rest) =>
    match Text.cut (.char '@') rest with
    | (password, some rest) => if user.isEmpty || password.isEmpty then none else some rest
    | (_, none) => none
  | (_, none) => none

theorem length_le_of_afterCredentials? {t rest : Text} (h : afterCredentials? t = some rest) :
    rest.length ≤ t.length := by
  unfold afterCredentials? at h
  split at h
  · rename_i user after hu
    split at h
    · rename_i password last hp
      split at h
      · simp at h
      · obtain rfl := Option.some.inj h
        have h1 := (Text.cut_eq_some hu).1
        have h2 := (Text.cut_eq_some hp).1
        subst h2
        subst h1
        simp
        omega
    · simp at h
  · simp at h

/-- Masks every user and password between `://` and `@`. -/
def maskAll (t : Text) : Text :=
  match t with
  | [] => []
  | p :: rest =>
    if List.isPrefixOf "://" (p :: rest) then
      match h : afterCredentials? (rest.drop 2) with
      | some after =>
        have := length_le_of_afterCredentials? h
        "://" ++ mask ++ ":" ++ mask ++ "@" ++ maskAll after
      | none => p :: maskAll rest
    else p :: maskAll rest
termination_by t.length
decreasing_by all_goals simp_all; try omega

/-- The address as it may be written to a log. -/
def masked (t : Text) : Text :=
  match LooseUrl.parse t [] with
  | .error _ => maskAll t
  | .ok u =>
    if u.password?.isSome then
      match u.port? with
      | .ok port => maskedParts u port
      | .error _ => maskAll t
    else t

end Url

end ImageDiscovery
