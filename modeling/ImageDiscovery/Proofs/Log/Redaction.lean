import ImageDiscovery.Proofs.Log.Secrets

/-!
# Redaction — what a log is told of nested objects

Out of debug mode, the members of an object are written with their keys in their order, and so are those of
the objects among them, as deep as they go.  What stands under the key of a secret is not told, not even
whether it is an object; everything else is written as it is.
-/

namespace ImageDiscovery

/-! ## Parts of texts -/

theorem Text.isWithin_iff {needle t : Text} : isWithin needle t = true ↔ needle <:+: t := by
  induction t with
  | nil =>
    show needle.isEmpty = true ↔ _
    rw [List.isEmpty_iff, List.infix_nil]
  | cons p rest ih =>
    show (needle.isPrefixOf (p :: rest) || isWithin needle rest) = true ↔ _
    rw [Bool.or_eq_true, List.isPrefixOf_iff_prefix, ih, List.infix_cons_iff]

/-! ## Values in objects -/

namespace Json

/-- The value that keys lead to, from object to object. -/
def at? : List Text → Json → Option Json
  | [], value => some value
  | key :: path, .object members => (Mapping.lookup key members).bind (at? path)
  | _ :: _, _ => none

def isObject : Json → Bool
  | .object _ => true
  | _ => false

theorem at?_append (path more : List Text) (value : Json) :
    at? (path ++ more) value = (at? path value).bind (at? more) := by
  induction path generalizing value with
  | nil => rfl
  | cons key path ih =>
    cases value with
    | object members =>
      show (Mapping.lookup key members).bind (at? (path ++ more)) =
        ((Mapping.lookup key members).bind (at? path)).bind (at? more)
      rw [Option.bind_assoc, funext ih]
    | _ => rfl

theorem at?_singleton (key : Text) (members : List (Text × Json)) :
    at? [key] (.object members) = Mapping.lookup key members := by
  show (Mapping.lookup key members).bind some = _
  rw [Option.bind_fun_some]

end Json

namespace Log

open Json (at?)

/-! ## Secrets -/

/-- A key that has one of the marks of secrets in it, in whatever case. -/
def IsSecretKey (key : Text) : Prop := ∃ mark ∈ secretMarks, mark <:+: key.lower

theorem isSecret_iff {key : Text} : isSecret key = true ↔ IsSecretKey key := by
  unfold isSecret
  dsimp only
  rw [List.any_eq_true]
  simp only [Text.isWithin_iff, IsSecretKey]

theorem isSecret_eq_false_iff {key : Text} : isSecret key = false ↔ ¬ IsSecretKey key := by
  rw [← isSecret_iff, Bool.not_eq_true]

/-! ## What is written of an object -/

/-- An object is written with the keys that it has. -/
theorem keys_redactMembers (members : List (Text × Json)) :
    (redactMembers members).map Prod.fst = members.map Prod.fst := by
  rw [redactMembers_eq_map, List.map_map]
  rfl

theorem lookup_redactMembers (key : Text) (members : List (Text × Json)) :
    Mapping.lookup key (redactMembers members) = (Mapping.lookup key members).map fun value =>
      if isSecret key then .text redacted else redactValue value := by
  induction members with
  | nil => rfl
  | cons member rest ih =>
    obtain ⟨k, value⟩ := member
    rw [redactMembers, Mapping.lookup, Mapping.lookup]
    by_cases hkey : k = key
    · rw [if_pos hkey, if_pos hkey, hkey]
      rfl
    · rw [if_neg hkey, if_neg hkey, ih]

theorem redactValue_of_not_isObject {value : Json} (h : value.isObject = false) :
    redactValue value = value := by
  cases value with
  | object members => cases h
  | _ => rfl

/-- Keys that are no secrets' lead to what is written of a value. -/
theorem at?_redactValue {path : List Text} (hpath : ∀ key ∈ path, ¬ IsSecretKey key) (value : Json) :
    at? path (redactValue value) = (at? path value).map redactValue := by
  induction path generalizing value with
  | nil => rfl
  | cons key path ih =>
    rw [List.forall_mem_cons] at hpath
    cases value with
    | object members =>
      show (Mapping.lookup key (redactMembers members)).bind (at? path) =
        ((Mapping.lookup key members).bind (at? path)).map redactValue
      rw [lookup_redactMembers, isSecret_eq_false_iff.mpr hpath.1]
      cases Mapping.lookup key members with
      | none => rfl
      | some value => exact ih hpath.2 value
    | _ => rfl

/-- What is written of an object, as far as keys of secrets are not passed, and what is behind them. -/
structure IsRedacted (members written : List (Text × Json)) : Prop where
  keys : ∀ path inner, (∀ key ∈ path, ¬ IsSecretKey key) → at? path (.object members) = some (.object inner) →
    ∃ inner', at? path (.object written) = some (.object inner') ∧ inner'.map Prod.fst = inner.map Prod.fst
  /-- A secret is replaced, whatever it is. -/
  secrets : ∀ path key value, (∀ key ∈ path, ¬ IsSecretKey key) → IsSecretKey key →
    at? (path ++ [key]) (.object members) = some value →
      at? (path ++ [key]) (.object written) = some (.text redacted)
  /-- Everything else that is not an object is kept. -/
  leaves : ∀ path value, (∀ key ∈ path, ¬ IsSecretKey key) → at? path (.object members) = some value →
    value.isObject = false → at? path (.object written) = some value

theorem isRedacted_redactMembers (members : List (Text × Json)) :
    IsRedacted members (redactMembers members) := by
  have hat : ∀ path, (∀ key ∈ path, ¬ IsSecretKey key) →
      at? path (.object (redactMembers members)) = (at? path (.object members)).map redactValue :=
    fun path hpath => at?_redactValue hpath (.object members)
  constructor
  case keys =>
    intro path inner hpath hinner
    refine ⟨redactMembers inner, ?_, keys_redactMembers inner⟩
    rw [hat path hpath, hinner]
    rfl
  case secrets =>
    intro path key value hpath hkey hvalue
    rw [Json.at?_append] at hvalue ⊢
    rw [hat path hpath]
    cases hfound : at? path (.object members) with
    | none =>
      rw [hfound] at hvalue
      cases hvalue
    | some found =>
      rw [hfound, Option.bind_some] at hvalue
      -- only an object has a member under the key
      cases found with
      | object inner =>
        rw [Json.at?_singleton] at hvalue
        show at? [key] (.object (redactMembers inner)) = _
        rw [Json.at?_singleton, lookup_redactMembers, hvalue, isSecret_iff.mpr hkey]
        rfl
      | _ => cases hvalue
  case leaves =>
    intro path value hpath hvalue hleaf
    rw [hat path hpath, hvalue, Option.map_some, redactValue_of_not_isObject hleaf]

/-! ## Once is enough -/

mutual

theorem redactMembers_redactMembers : (members : List (Text × Json)) →
    redactMembers (redactMembers members) = redactMembers members
  | [] => rfl
  | (key, value) :: rest => by
    have hvalue := redactValue_redactValue value
    have hrest := redactMembers_redactMembers rest
    rw [redactMembers, redactMembers, hrest]
    split
    · rfl
    · rw [hvalue]

theorem redactValue_redactValue : (value : Json) → redactValue (redactValue value) = redactValue value
  | .object members => congrArg Json.object (redactMembers_redactMembers members)
  | .null => rfl
  | .bool _ => rfl
  | .int _ => rfl
  | .float _ => rfl
  | .text _ => rfl
  | .array _ => rfl

end

/-! ## Objects that are written alike -/

mutual

/-- Values that differ in nothing but secrets. -/
inductive SameValue : Json → Json → Prop
  | same (value : Json) : SameValue value value
  | object {members others : List (Text × Json)} :
    SameMembers members others → SameValue (.object members) (.object others)

/-- Members that have the same keys, and differ in nothing but the values of secrets. -/
inductive SameMembers : List (Text × Json) → List (Text × Json) → Prop
  | nil : SameMembers [] []
  | secret {key : Text} {rest others : List (Text × Json)} (value other : Json) :
    IsSecretKey key → SameMembers rest others → SameMembers ((key, value) :: rest) ((key, other) :: others)
  | member {key : Text} {value other : Json} {rest others : List (Text × Json)} :
    SameValue value other → SameMembers rest others →
      SameMembers ((key, value) :: rest) ((key, other) :: others)

end

theorem sameValue_iff_of_not_isObject {value other : Json} (h : value.isObject = false) :
    SameValue value other ↔ value = other := by
  constructor
  · intro hsame
    cases hsame with
    | same => rfl
    | object => cases h
  · rintro rfl
    exact .same value

/-- A value that is no object is written like nothing but itself. -/
theorem redactValue_eq_iff_of_not_isObject {value other : Json} (h : value.isObject = false) :
    redactValue value = redactValue other ↔ SameValue value other := by
  rw [sameValue_iff_of_not_isObject h, redactValue_of_not_isObject h]
  cases hother : other.isObject with
  | false => rw [redactValue_of_not_isObject hother]
  | true =>
    have hne : ∀ members, value ≠ .object members := by
      rintro members rfl
      cases h
    cases other with
    | object members => exact iff_of_false (hne _) (hne _)
    | _ => cases hother

mutual

theorem redactMembers_eq_iff : (members others : List (Text × Json)) →
    (redactMembers members = redactMembers others ↔ SameMembers members others)
  | [], [] => ⟨fun _ => .nil, fun _ => rfl⟩
  | [], _ :: _ => ⟨nofun, nofun⟩
  | _ :: _, [] => ⟨nofun, nofun⟩
  | (key, value) :: rest, (key', other) :: others => by
    have hvalue := redactValue_eq_iff value other
    have hrest := redactMembers_eq_iff rest others
    rw [redactMembers, redactMembers, List.cons.injEq, Prod.mk.injEq, hrest]
    constructor
    · rintro ⟨⟨rfl, hsame⟩, hothers⟩
      by_cases hkey : isSecret key = true
      · exact .secret value other (isSecret_iff.mp hkey) hothers
      · rw [if_neg hkey, if_neg hkey] at hsame
        exact .member (hvalue.mp hsame) hothers
    · intro hsame
      cases hsame with
      | secret _ _ hkey hothers =>
        rw [if_pos (isSecret_iff.mpr hkey), if_pos (isSecret_iff.mpr hkey)]
        exact ⟨⟨rfl, rfl⟩, hothers⟩
      | member hsame hothers =>
        rw [hvalue.mpr hsame]
        exact ⟨⟨rfl, rfl⟩, hothers⟩

theorem redactValue_eq_iff : (value other : Json) →
    (redactValue value = redactValue other ↔ SameValue value other)
  | .object members, .object others => by
    have hmembers := redactMembers_eq_iff members others
    show Json.object _ = Json.object _ ↔ _
    rw [Json.object.injEq, hmembers]
    constructor
    · exact .object
    · intro hsame
      cases hsame with
      | same => exact hmembers.mp rfl
      | object hsame => exact hsame
  | .object _, .null | .object _, .bool _ | .object _, .int _ | .object _, .float _
  | .object _, .text _ | .object _, .array _ => ⟨nofun, nofun⟩
  | .null, _ | .bool _, _ | .int _, _ | .float _, _ | .text _, _ | .array _, _ =>
    redactValue_eq_iff_of_not_isObject rfl

end

/-- **Redaction.**  Out of debug mode the keys of nested objects are written as they are, secrets are
    replaced and everything else is kept.  So the same is written of two objects if and only if they differ
    in nothing but secrets, and what is written is written again as it stands. -/
theorem redact_nested {env : Environment} (hdebug : debugMode env = false)
    (members : List (Text × Json)) :
    IsRedacted members (redact env members) ∧
      (∀ others, redact env members = redact env others ↔ SameMembers members others) ∧
      redact env (redact env members) = redact env members := by
  have hredact : redact env = redactMembers := by
    funext members
    rw [redact, hdebug, if_neg Bool.false_ne_true]
  rw [hredact]
  exact ⟨isRedacted_redactMembers members, redactMembers_eq_iff members, redactMembers_redactMembers members⟩

/-- Headers of a host beside a secret. -/
def hostMembers (credentials : Json) : List (Text × Json) :=
  [("example.com", .object [("Authorization", credentials), ("Accept", .array [.text "text/html"])]),
    ("TOKENS", .object [])]

theorem redact_nested_headers :
    debugMode {} = false ∧
      at? ["example.com", "Authorization"] (.object (redact {} (hostMembers (.text "Bearer abc")))) =
        some (.text redacted) ∧
      redact {} (hostMembers (.text "Bearer abc")) = redact {} (hostMembers .null) := by
  have hdebug : debugMode {} = false := by decide
  have hplain : ∀ key ∈ ([Text.ofString "example.com"] : List Text), ¬ IsSecretKey key := by
    intro key hkey
    rw [List.mem_singleton.mp hkey, ← isSecret_eq_false_iff]
    decide
  have hsecret : IsSecretKey "Authorization" := isSecret_iff.mp (by decide)
  obtain ⟨hredacted, hsame, -⟩ := redact_nested hdebug (hostMembers (.text "Bearer abc"))
  refine ⟨hdebug, hredacted.secrets ["example.com"] "Authorization" (.text "Bearer abc") hplain hsecret rfl,
    (hsame (hostMembers .null)).mpr ?_⟩
  -- the credentials are a secret, and all else is the same
  exact .member (.object (.secret _ _ hsecret (.member (.same _) .nil))) (.member (.same _) .nil)

end Log

end ImageDiscovery
