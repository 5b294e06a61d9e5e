import ImageDiscovery.Proofs.Text.Number
import ImageDiscovery.Proofs.Url.Cutting
import ImageDiscovery.Proofs.Url.Points

/-!
# Writing — a URL is read again from what is written of it

The parts of a URL hold none of the marks that end them, so a written URL comes apart into the parts that
it was written from.  Only hosts need care: one with a colon in it is written between brackets, and what
is read there is the host with its brackets.
-/

namespace ImageDiscovery

namespace Url

variable {u : Url}

/-! ## Authorities -/

/-- A host with the brackets that it needs. -/
def hostText (host : Text) : Text := if host.any isColon then inBrackets host else host

/-- A port as it is written behind a host. -/
def portText : Option Int → Text
  | some n => .char ':' :: Text.ofInt n
  | none => []

def portDigits (port : Option Int) : Text := (port.map Text.ofInt).getD []

theorem of_mem_ofInt {n : Int} {p : CodePoint} (h : p ∈ Text.ofInt n) :
    p = .char '-' ∨ p.isDigit = true := by
  cases n with
  | ofNat k => exact .inr (Text.isDigit_of_mem_ofNat h)
  | negSucc k => exact (List.mem_cons.mp h).imp_right Text.isDigit_of_mem_ofNat

theorem not_mem_portText {p : CodePoint} (h : p ≠ .char ':' ∧ p ≠ .char '-' ∧ p.isDigit = false)
    (port : Option Int) : p ∉ portText port := by
  intro hp
  cases port with
  | none => exact nomatch hp
  | some n =>
    have hdigit := (List.mem_cons.mp hp).resolve_left h.1
    rcases of_mem_ofInt hdigit with rfl | hdigit
    · exact h.2.1 rfl
    · rw [h.2.2] at hdigit
      exact nomatch hdigit

theorem isAscii_of_isDigit {p : CodePoint} (h : p.isDigit = true) : p.isAscii = true := by
  simp only [CodePoint.isDigit, Bool.and_eq_true, decide_eq_true_eq] at h
  exact decide_eq_true (by omega)

theorem isAscii_of_mem_portText {port : Option Int} {p : CodePoint} (h : p ∈ portText port) :
    p.isAscii = true := by
  cases port with
  | none => exact nomatch h
  | some n =>
    rcases List.mem_cons.mp h with rfl | h
    · rfl
    · rcases of_mem_ofInt h with rfl | hdigit
      · rfl
      · exact isAscii_of_isDigit hdigit

theorem netloc_eq (u : Url) : u.netloc = hostText u.host ++ portText u.port := by
  unfold netloc portText
  cases u.port <;> rfl

theorem hostText_of_mem {host : Text} (h : CodePoint.char ':' ∈ host) :
    hostText host = inBrackets host := by
  rw [hostText, if_pos]
  exact List.any_eq_true.mpr ⟨_, h, by decide⟩

theorem hostText_of_not_mem {host : Text} (h : CodePoint.char ':' ∉ host) : hostText host = host := by
  rw [hostText, if_neg]
  rw [List.any_eq_true]
  rintro ⟨p, hp, hcolon⟩
  have hp' : p = .char ':' := of_decide_eq_true hcolon
  exact h (hp' ▸ hp)

theorem of_mem_netloc {p : CodePoint} (h : p ∈ u.netloc) :
    p ∈ u.host ∨ p = .char '[' ∨ p = .char ']' ∨ p ∈ portText u.port := by
  rw [netloc_eq, List.mem_append] at h
  by_cases hcolon : CodePoint.char ':' ∈ u.host
  · rw [hostText_of_mem hcolon, inBrackets, List.mem_cons, List.mem_append, List.mem_singleton] at h
    grind
  · rw [hostText_of_not_mem hcolon] at h
    exact h.imp_right fun hport => .inr (.inr hport)

theorem isAscii_netloc (h : u.host.isAscii = true) : u.netloc.isAscii = true := by
  rw [Text.isAscii, List.all_eq_true] at h ⊢
  intro p hp
  rcases of_mem_netloc hp with hp | rfl | rfl | hp
  · exact h p hp
  · rfl
  · rfl
  · exact isAscii_of_mem_portText hp

theorem of_mem_authority {p : CodePoint} (h : p ∈ u.authority) :
    p ∈ u.userinfo ∨ p = .char '@' ∨ p ∈ u.netloc := by
  unfold authority at h
  split at h
  · exact .inr (.inr h)
  · rw [List.mem_append, List.mem_append, List.mem_singleton, or_assoc] at h
    exact h

/-- An authority comes apart into what it was written from. -/
theorem ofText_authority (hat : CodePoint.char '@' ∉ u.host)
    (hbracket : CodePoint.char ':' ∈ u.host ∨ CodePoint.char '[' ∉ u.host) :
    Authority.ofText u.authority = ⟨u.userinfo, hostText u.host, portDigits u.port⟩ := by
  have hnetloc : CodePoint.char '@' ∉ u.netloc := by
    intro hmem
    rcases of_mem_netloc hmem with h | h | h | h
    · exact hat h
    · cases h
    · cases h
    · exact not_mem_portText (by decide) _ h
  -- the last `@` is the one behind the user information
  have huser : cutLast (.char '@') u.authority = (u.userinfo, u.netloc) := by
    unfold authority
    split
    · rename_i hempty
      rw [List.isEmpty_iff.mp hempty]
      exact cutLast_of_not_mem hnetloc
    · rw [List.append_assoc, List.singleton_append]
      exact cutLast_append hnetloc _
  unfold Authority.ofText
  rw [huser, netloc_eq]
  dsimp only
  by_cases hcolon : CodePoint.char ':' ∈ u.host
  · -- between brackets, of which the last closing one ends the host
    have hclosing : CodePoint.char ']' ∉ portText u.port := not_mem_portText (by decide) _
    have hsplit : inBrackets u.host ++ portText u.port =
        (.char '[' :: u.host) ++ .char ']' :: portText u.port := by
      simp [inBrackets]
    rw [hostText_of_mem hcolon, hsplit, if_pos (by simp), cutLast_append hclosing]
    cases u.port <;> rfl
  · have hopening : (u.host ++ portText u.port).head? ≠ some (.char '[') := by
      intro hhead
      rcases List.mem_append.mp (List.mem_of_mem_head? hhead) with h | h
      · exact hbracket.resolve_left hcolon h
      · exact not_mem_portText (by decide) _ h
    have hpass : ∀ p ∈ u.host, isColon p = false :=
      fun p hp => decide_eq_false fun e => hcolon (e ▸ hp)
    have hstop : ∀ p ∈ (portText u.port).head?, isColon p = true := by
      intro p hp
      cases hport : u.port with
      | none =>
        rw [hport] at hp
        cases hp
      | some n =>
        rw [hport] at hp
        rw [← Option.some.inj hp]
        rfl
    rw [hostText_of_not_mem hcolon, if_neg, upTo_append hpass hstop]
    · cases u.port <;> rfl
    · intro h
      exact hopening (of_decide_eq_true (Bool.and_eq_true_iff.mp h).1)

/-! ## What a URL is put together from -/

/-- A URL is put together from parts and an authority, and each part is brought to its form. -/
structure IsMade (parts : Parts) (authority : Authority) (u : Url) : Prop where
  scheme : u.scheme = parts.scheme.asciiLower
  userinfo : u.userinfo = Percent.encode Percent.inUserinfo authority.userinfo
  host : encodeHost authority.host = .ok u.host
  port : readPort parts.scheme authority.port = .ok u.port
  path : u.scheme ≠ [] → u.path = Percent.encode Percent.inPath (removeDots parts.path)
  rooted : u.authority ≠ [] → ∀ p ∈ parts.path.head?, p = .char '/'
  query : u.query = parts.query.map (Percent.encode Percent.inQuery)
  fragment : u.fragment = parts.fragment.map (Percent.encode Percent.inFragment)

theorem authority_eq_nil (huser : u.userinfo = []) (hhost : u.host = []) (hport : u.port = none) :
    u.authority = [] := by
  rw [authority, netloc_eq, huser, hhost, hport]
  rfl

theorem of_authority_eq_nil (h : u.authority = []) : u.userinfo = [] ∧ u.host = [] ∧ u.port = none := by
  rw [authority, netloc_eq, List.append_eq_nil_iff, List.append_eq_nil_iff] at h
  refine ⟨?_, ?_, ?_⟩
  · apply Decidable.byContradiction
    intro huser
    have huser : ¬ u.userinfo.isEmpty = true := by simpa using huser
    rw [if_neg huser] at h
    exact List.append_ne_nil_of_right_ne_nil _ (List.cons_ne_nil _ _) h.1
  · have hhost := h.2.1
    unfold hostText at hhost
    split at hhost
    · exact nomatch hhost
    · exact hhost
  · cases hport : u.port with
    | none => rfl
    | some n =>
      rw [hport] at h
      exact nomatch h.2.2

theorem authority_ne_nil (h : u.host ≠ []) : u.authority ≠ [] := fun hnil =>
  h (of_authority_eq_nil hnil).2.1

theorem isMade_of_ofParts {parts : Parts} {authority : Authority}
    (h : ofParts parts authority = .ok u) : IsMade parts authority u := by
  unfold ofParts at h
  rcases exists_of_bind_eq_ok h with ⟨host, hhost, h⟩
  rcases exists_of_bind_eq_ok h with ⟨port, hport, h⟩
  dsimp only at h
  split at h
  · exact nomatch h
  · rename_i hcheck
    have hu := (Except.ok.inj h).symm
    constructor
    case scheme => rw [hu]
    case userinfo => rw [hu]
    case host => rw [hhost, hu]
    case port => rw [hport, hu]
    case query => rw [hu]
    case fragment => rw [hu]
    case path =>
      intro hscheme
      have hne : (!parts.scheme.asciiLower.isEmpty) = true := by
        rw [hu] at hscheme
        simpa using hscheme
      rw [hu, hne]
      rfl
    case rooted =>
      intro hauthority p hp
      -- some part of the authority is there, so the check saw a server
      have hsome : (!(Percent.encode Percent.inUserinfo authority.userinfo).isEmpty ||
          !host.isEmpty || port.isSome) = true := by
        apply Decidable.byContradiction
        intro hnone
        simp only [Bool.or_eq_true, Bool.not_eq_true', not_or, Bool.not_eq_false,
          List.isEmpty_iff, Option.isSome_iff_ne_none, ne_eq, Decidable.not_not] at hnone
        rw [hu] at hauthority
        exact hauthority (authority_eq_nil hnone.1.1 hnone.1.2 hnone.2)
      rw [checkPath, hsome] at hcheck
      cases hpath : parts.path with
      | nil =>
        rw [hpath] at hp
        exact nomatch hp
      | cons q rest =>
        rw [hpath] at hp hcheck
        rw [← Option.some.inj hp]
        apply Decidable.byContradiction
        intro hslash
        simp [hslash] at hcheck

theorem isMade_of_parse {t : Text} (h : parse t = .ok u) :
    IsMade (Parts.ofText t) (Authority.ofText (Parts.ofText t).authority) u := by
  unfold parse at h
  split at h
  · exact nomatch h
  · split at h
    · exact nomatch h
    · exact isMade_of_ofParts h

/-! ## Paths -/

theorem exists_dotStep {before : List Text} (h : ∃ later, before = later ++ [[]]) (segment : Text) :
    ∃ later, dotStep before segment = later ++ [[]] := by
  rcases h with ⟨later, rfl⟩
  unfold dotStep
  split
  · exact ⟨later, rfl⟩
  · split
    · split
      · exact ⟨later, rfl⟩
      · rename_i hne
        cases later with
        | nil => exact absurd rfl hne
        | cons last later => exact ⟨later, rfl⟩
    · exact ⟨segment :: later, rfl⟩

/-- A path from the root stays one, or becomes empty, when its dots are removed. -/
theorem head?_removeDots {path : Text} (h : ∀ p ∈ path.head?, p = .char '/') :
    ∀ p ∈ (removeDots path).head?, p = .char '/' := by
  cases path with
  | nil => exact nofun
  | cons p rest =>
    have hp : p = .char '/' := h p rfl
    subst hp
    -- the empty segment before the first slash is never taken away
    have hfold : ∀ (segments before : List Text), (∃ later, before = later ++ [[]]) →
        ∃ later, segments.foldl dotStep before = later ++ [[]] := by
      intro segments
      induction segments with
      | nil => exact fun before hbefore => hbefore
      | cons segment segments ih => exact fun before hbefore => ih _ (exists_dotStep hbefore segment)
    rcases hfold (Text.split (.char '/') rest) [[]] ⟨[], rfl⟩ with ⟨later, hlater⟩
    have hdots : removeDots (.char '/' :: rest) = Text.join "/" ([] :: later.reverse) := by
      rw [removeDots, Text.split_cons_self, List.foldl_cons]
      show Text.join "/" ((Text.split (.char '/') rest).foldl dotStep [[]]).reverse = _
      rw [hlater, List.reverse_append]
      rfl
    rw [hdots]
    by_cases hnil : later.reverse = []
    · rw [hnil]
      exact nofun
    · rw [Text.join_cons _ _ hnil]
      intro p hp
      exact (Option.some.inj hp).symm

/-! ## Whole URLs -/

/-- What ends the server of a URL. -/
def endsServer (p : CodePoint) : Bool := isSlash p || isQuestionMark p || isNumberSign p

def endsPath (p : CodePoint) : Bool := isQuestionMark p || isNumberSign p

theorem eq_of_endsServer {p : CodePoint} (h : endsServer p = true) :
    p = .char '/' ∨ p = .char '?' ∨ p = .char '#' := by
  simpa [endsServer, isSlash, isQuestionMark, isNumberSign, or_assoc] using h

theorem not_endsServer {t : Text} (hslash : CodePoint.char '/' ∉ t) (hmark : CodePoint.char '?' ∉ t)
    (hsign : CodePoint.char '#' ∉ t) : ∀ p ∈ t, endsServer p = false := by
  intro p hp
  rw [← Bool.not_eq_true]
  intro hends
  rcases eq_of_endsServer hends with rfl | rfl | rfl
  · exact hslash hp
  · exact hmark hp
  · exact hsign hp

theorem not_endsPath {t : Text} (hmark : CodePoint.char '?' ∉ t) (hsign : CodePoint.char '#' ∉ t) :
    ∀ p ∈ t, endsPath p = false := by
  intro p hp
  have hne : p ≠ .char '?' ∧ p ≠ .char '#' := ⟨fun e => hmark (e ▸ hp), fun e => hsign (e ▸ hp)⟩
  simpa [endsPath, isQuestionMark, isNumberSign] using hne

def cutQuery : Text → Option Text × Text
  | .char '?' :: rest => (some (upTo isNumberSign rest).1, (upTo isNumberSign rest).2)
  | rest => (none, rest)

/-- What is behind the mark of a fragment. -/
def fragmentOf : Text → Option Text
  | _ :: fragment => some fragment
  | [] => none

/-- The parts of a text with a server in it, behind its scheme. -/
theorem ofText_of_server {t scheme rest : Text}
    (h : cutScheme t = (scheme, .char '/' :: .char '/' :: rest)) :
    let server := upTo endsServer rest
    let place := upTo endsPath server.2
    let query := cutQuery place.2
    Parts.ofText t = ⟨scheme, server.1, place.1, query.1, fragmentOf query.2⟩ := by
  intro server place query
  rw [Parts.ofText, h]
  rfl

/-- Two slashes, behind which a server stands. -/
def BeginsServer (t : Text) : Prop := ∃ after, t = .char '/' :: .char '/' :: after

/-- The parts of a text without a server. -/
theorem ofText_of_path {t scheme rest : Text} (h : cutScheme t = (scheme, rest))
    (hrest : ¬ BeginsServer rest) :
    let place := upTo endsPath rest
    let query := cutQuery place.2
    Parts.ofText t = ⟨scheme, [], place.1, query.1, fragmentOf query.2⟩ := by
  intro place query
  rw [Parts.ofText, h]
  dsimp only
  split
  · rename_i server
    exact absurd ⟨server, rfl⟩ hrest
  · rfl

/-- The parts of a URL do not hold the marks that end them. -/
structure IsWritten (u : Url) : Prop where
  authority : ∀ p ∈ u.authority, endsServer p = false
  path : ∀ p ∈ u.path, endsPath p = false
  rooted : ∀ p ∈ u.path.head?, p = .char '/'
  query : ∀ query ∈ u.query, ∀ p ∈ query, isNumberSign p = false

theorem head?_fragmentText (u : Url) : ∀ p ∈ u.fragmentText.head?, p = .char '#' := by
  unfold fragmentText
  split
  · intro p hp
    exact (Option.some.inj hp).symm
  · exact nofun

theorem cutQuery_append (h : ∀ query ∈ u.query, ∀ p ∈ query, isNumberSign p = false) :
    cutQuery (u.queryText ++ u.fragmentText) = (u.query, u.fragmentText) := by
  cases hquery : u.query with
  | none =>
    rw [queryText, hquery]
    cases hfragment : u.fragment with
    | none =>
      rw [fragmentText, hfragment]
      rfl
    | some fragment =>
      rw [fragmentText, hfragment]
      rfl
  | some query =>
    have hstop : ∀ p ∈ u.fragmentText.head?, isNumberSign p = true := by
      intro p hp
      rw [u.head?_fragmentText p hp]
      rfl
    have hcut := upTo_append (h query hquery) hstop
    rw [queryText, hquery]
    show (some (upTo isNumberSign (query ++ u.fragmentText)).1,
      (upTo isNumberSign (query ++ u.fragmentText)).2) = _
    rw [hcut]

theorem head?_queryText_append (u : Url) :
    ∀ p ∈ (u.queryText ++ u.fragmentText).head?, p = .char '?' ∨ p = .char '#' := by
  unfold queryText
  split
  · intro p hp
    exact .inl (Option.some.inj hp).symm
  · exact fun p hp => .inr (u.head?_fragmentText p hp)

theorem upTo_endsPath_append (h : ∀ p ∈ u.path, endsPath p = false) :
    upTo endsPath (u.path ++ (u.queryText ++ u.fragmentText)) =
      (u.path, u.queryText ++ u.fragmentText) := by
  apply upTo_append h
  intro p hp
  rcases u.head?_queryText_append p hp with rfl | rfl
  all_goals rfl

theorem fragmentOf_fragmentText (u : Url) : fragmentOf u.fragmentText = u.fragment := by
  rw [fragmentText]
  cases u.fragment <;> rfl

/-- A URL with a scheme and a server comes apart into its parts. -/
theorem ofText_toText (hs : IsScheme u.scheme) (hauthority : u.authority ≠ []) (h : u.IsWritten) :
    Parts.ofText u.toText = u.parts := by
  have hserver : upTo endsServer (u.authority ++ (u.path ++ (u.queryText ++ u.fragmentText))) =
      (u.authority, u.path ++ (u.queryText ++ u.fragmentText)) := by
    apply upTo_append h.authority
    intro p hp
    -- what follows the server is the path, or the query or the fragment behind an empty path
    rw [List.head?_append, Option.mem_def, Option.or_eq_some_iff] at hp
    rcases hp with hp | ⟨-, hp⟩
    · rw [h.rooted p hp]
      rfl
    · rcases u.head?_queryText_append p hp with rfl | rfl
      all_goals rfl
  have hcut : cutScheme u.toText = (u.scheme, .char '/' :: .char '/' ::
      (u.authority ++ (u.path ++ (u.queryText ++ u.fragmentText)))) := by
    have hscheme : u.scheme.isEmpty = false := by simpa using hs.ne_nil
    have hnonempty : u.authority.isEmpty = false := by simpa using hauthority
    have htext : u.toText = u.scheme ++ .char ':' :: .char '/' :: .char '/' ::
        (u.authority ++ (u.path ++ (u.queryText ++ u.fragmentText))) := by
      rw [toText, hscheme, hnonempty]
      simp
    rw [htext, hs.cutScheme_append]
  rw [ofText_of_server hcut]
  simp only [hserver, upTo_endsPath_append h.path, cutQuery_append h.query, fragmentOf_fragmentText]
  rfl

/-- Without a server, too, if the path is not read as one. -/
theorem ofText_toText_of_path (hs : IsScheme u.scheme) (hauthority : u.authority = [])
    (hserver : ¬ BeginsServer u.path) (hpath : ∀ p ∈ u.path, endsPath p = false)
    (hquery : ∀ query ∈ u.query, ∀ p ∈ query, isNumberSign p = false) :
    Parts.ofText u.toText = u.parts := by
  have hscheme : u.scheme.isEmpty = false := by simpa using hs.ne_nil
  have htext : u.toText = u.scheme ++ .char ':' :: (u.path ++ (u.queryText ++ u.fragmentText)) := by
    rw [toText, hscheme, hauthority]
    simp
  have hrest : ¬ BeginsServer (u.path ++ (u.queryText ++ u.fragmentText)) := by
    intro hslashes
    rcases hslashes with ⟨after, hafter⟩
    -- no slash stands in front of the query, so both slashes are in the path
    have hhead := u.head?_queryText_append
    cases hcut : u.path with
    | nil =>
      rw [hcut, List.nil_append] at hafter
      rw [hafter] at hhead
      exact absurd (hhead _ rfl) (by decide)
    | cons p path =>
      rw [hcut, List.cons_append, List.cons.injEq] at hafter
      cases path with
      | nil =>
        rw [List.nil_append] at hafter
        rw [hafter.2] at hhead
        exact absurd (hhead _ rfl) (by decide)
      | cons q path =>
        rw [List.cons_append, List.cons.injEq] at hafter
        exact hserver ⟨path, by rw [hcut, hafter.1, hafter.2.1]⟩
  have hcut : cutScheme u.toText = (u.scheme, u.path ++ (u.queryText ++ u.fragmentText)) := by
    rw [htext, hs.cutScheme_append]
  rw [ofText_of_path hcut hrest]
  simp only [upTo_endsPath_append hpath, cutQuery_append hquery, fragmentOf_fragmentText]
  rw [parts, hauthority]

section

variable {parts : Parts} {authority : Authority}

theorem IsMade.not_endsPath (h : IsMade parts authority u) (hs : u.scheme ≠ []) :
    ∀ p ∈ u.path, endsPath p = false := by
  rw [h.path hs]
  exact Url.not_endsPath (Percent.not_mem_encode (by decide) _) (Percent.not_mem_encode (by decide) _)

theorem IsMade.not_isNumberSign (h : IsMade parts authority u) :
    ∀ query ∈ u.query, ∀ p ∈ query, isNumberSign p = false := by
  intro query hquery p hp
  rw [h.query] at hquery
  rcases Option.map_eq_some_iff.mp hquery with ⟨written, -, rfl⟩
  rw [← Bool.not_eq_true]
  intro hends
  have hends : p = .char '#' := of_decide_eq_true hends
  subst hends
  exact Percent.not_mem_encode (by decide) _ hp

/-- What a URL is put together from is written in it, if its host keeps clear of the marks. -/
theorem isWritten_of_isMade (h : IsMade parts authority u) (hs : u.scheme ≠ [])
    (hauthority : u.authority ≠ []) (hhost : ∀ p ∈ u.host, endsServer p = false) : u.IsWritten := by
  constructor
  case authority =>
    intro p hp
    rw [← Bool.not_eq_true]
    intro hends
    have hp : p ∈ u.userinfo ∨ p = .char '@' ∨ p ∈ u.host ∨ p = .char '[' ∨ p = .char ']' ∨
        p ∈ portText u.port := (of_mem_authority hp).imp_right (Or.imp_right of_mem_netloc)
    rcases hp with hp | rfl | hp | rfl | rfl | hp
    · rw [h.userinfo] at hp
      rcases eq_of_endsServer hends with rfl | rfl | rfl
      all_goals exact Percent.not_mem_encode (by decide) _ hp
    · exact absurd hends (by decide)
    · rw [hhost p hp] at hends
      exact nomatch hends
    · exact absurd hends (by decide)
    · exact absurd hends (by decide)
    · rcases eq_of_endsServer hends with rfl | rfl | rfl
      all_goals exact not_mem_portText (by decide) _ hp
  case path => exact h.not_endsPath hs
  case rooted =>
    have hdots := head?_removeDots (h.rooted hauthority)
    rw [h.path hs]
    cases hpath : removeDots parts.path with
    | nil => exact nofun
    | cons q rest =>
      rw [hpath] at hdots
      rw [hdots q rfl]
      intro p hp
      exact (Option.some.inj hp).symm
  case query => exact h.not_isNumberSign

end

end Url

end ImageDiscovery
