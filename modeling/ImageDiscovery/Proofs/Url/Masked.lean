import ImageDiscovery.Proofs.Url.Password
import ImageDiscovery.Proofs.Url.Reference
import ImageDiscovery.Url.Masked

/-!
# Masked passwords — what the log is told of a URL

URLs that differ in nothing but a password are written to the log alike.  Either both can be cut into
parts, and three asterisks take the place of the password; or neither can, and then what looks like a user
and a password is masked, as long as there is a user.
-/

namespace ImageDiscovery

namespace LooseUrl

open Url (HasUserPoints IsScheme endsServer upTo upTo_append_of_pass exists_cutLast_user)

/-! ## Cutting with user information in front -/

/-- An address that can be cut into parts, of which the port is one. -/
def Cuttable (t : Text) : Prop := ∃ u port, parse t [] = .ok u ∧ u.port? = .ok port

theorem not_deceptive_of_ascii : ∀ n < 0x80, deceptive.contains n = false := by decide +kernel

theorem not_deceptive {user : Text} (h : HasUserPoints user) :
    (user.any fun p => deceptive.contains p.toNat) = false := by
  rw [List.any_eq_false]
  intro p hp
  have hascii : p.isAscii = true := by
    have hpoint := h p hp
    rw [Url.isUserPoint, Bool.or_eq_true] at hpoint
    exact hpoint.elim Percent.isAscii_of_isUnreserved Percent.isAscii_of_printableBut
  rw [not_deceptive_of_ascii _ (of_decide_eq_true hascii)]
  exact Bool.false_ne_true

/-- User information changes nothing about whether a server can be one. -/
theorem isSome_checkNetloc_append {user : Text} (h : HasUserPoints user) (server : Text) :
    (checkNetloc (user ++ server)).isSome = (checkNetloc server).isSome := by
  have hopening : CodePoint.char '[' ∉ user := h.not_mem (by decide)
  have hclosing : CodePoint.char ']' ∉ user := h.not_mem (by decide)
  have hcontains : ∀ {p : CodePoint}, p ∉ user → (user ++ server).contains p = server.contains p := by
    intro p hp
    rw [Bool.eq_iff_iff, List.contains_iff_mem, List.contains_iff_mem, List.mem_append,
      or_iff_right hp]
  unfold checkNetloc
  simp only [hcontains hopening, hcontains hclosing, Text.cut_append_of_not_mem hopening,
    List.any_append, not_deceptive h, Bool.false_or]
  split
  · rfl
  · rw [Option.isSome_or, Option.isSome_or]
    congr 1
    split <;> rfl

/-- What follows the server of an address, cut into its parts. -/
def behindServer (scheme rest : Text) : LooseUrl :=
  let fragment := Text.cut (.char '#') rest
  let query := Text.cut (.char '?') fragment.1
  let path := if scheme ∈ paramSchemes then cutParams query.1 else (query.1, [])
  ⟨scheme, [], path.1, path.2, query.2.getD [], fragment.2.getD []⟩

theorem parse_of_front {front : Text} (h : ReadsAsScheme front) (rest : Text) :
    parse (front ++ .char ':' :: .char '/' :: .char '/' :: rest) [] =
      let server := upTo endsServer (rest.filter isUnbroken)
      match checkNetloc server.1 with
      | some problem => .error problem
      | none => .ok { behindServer (cleaned front).asciiLower server.2 with netloc := server.1 } := by
  have hmarks : (CodePoint.char ':' :: .char '/' :: .char '/' :: rest).filter isUnbroken =
      .char ':' :: .char '/' :: .char '/' :: rest.filter isUnbroken := by
    rw [List.filter_cons_of_pos (by decide), List.filter_cons_of_pos (by decide),
      List.filter_cons_of_pos (by decide)]
  unfold parse
  rw [cleaned_append_of_ne_nil h.ne_nil, hmarks]
  dsimp only
  rw [h.cutScheme?_append]
  rfl

theorem parse_of_server {scheme : Text} (hs : IsScheme scheme) (rest : Text) :
    parse (scheme ++ .char ':' :: .char '/' :: .char '/' :: rest) [] =
      let server := upTo endsServer (rest.filter isUnbroken)
      match checkNetloc server.1 with
      | some problem => .error problem
      | none => .ok { behindServer scheme server.2 with netloc := server.1 } := by
  have hparse := parse_of_front (readsAsScheme_of_isScheme hs) rest
  rwa [cleaned_of_isScheme hs, hs.lower] at hparse

/-- User information in front of a server becomes a part of it and changes no other. -/
theorem exists_parse_user {scheme : Text} (hs : IsScheme scheme) (rest : Text) :
    ∃ (server : Text) (behind : LooseUrl), ∀ user, HasUserPoints user →
      parse (scheme ++ .char ':' :: .char '/' :: .char '/' :: (user ++ .char '@' :: rest)) [] =
        match checkNetloc (user ++ .char '@' :: server) with
        | some problem => .error problem
        | none => .ok { behind with netloc := user ++ .char '@' :: server } := by
  let server := upTo endsServer (rest.filter isUnbroken)
  refine ⟨server.1, behindServer scheme server.2, fun user huser => ?_⟩
  have hfilter : (user ++ .char '@' :: rest).filter isUnbroken =
      (user ++ [.char '@']) ++ rest.filter isUnbroken := by
    have hkeep : user.filter isUnbroken = user := List.filter_eq_self.mpr fun p hp => by
      have hne : ∀ q, Url.isUserPoint q = false → p ≠ q := fun q hq e => huser.not_mem hq (e ▸ hp)
      simp [isUnbroken, hne (.char '\t') (by decide), hne (.char '\r') (by decide),
        hne (.char '\n') (by decide)]
    rw [List.filter_append, hkeep, List.filter_cons_of_pos (by decide), List.append_assoc]
    rfl
  have hpass : ∀ p ∈ user ++ [.char '@'], endsServer p = false :=
    List.forall_mem_append.mpr ⟨huser.not_endsServer, by decide⟩
  rw [parse_of_server hs, hfilter, upTo_append_of_pass hpass, List.append_assoc, List.singleton_append]

/-! ## User and password -/

variable {u v : LooseUrl} {user password rest : Text}

theorem exists_credentials (rest : Text) :
    ∃ more, ∀ {u : LooseUrl} {user password : Text},
      u.netloc = user ++ .char ':' :: password ++ .char '@' :: rest → CodePoint.char ':' ∉ user →
        u.credentials = some (user, some (password ++ more)) := by
  obtain ⟨more, place, hcut⟩ := exists_cutLast_user rest
  refine ⟨more, fun {u user password} hnetloc hcolon => ?_⟩
  have hat : u.netloc.contains (.char '@') = true := by
    rw [hnetloc, List.contains_iff_mem]
    simp
  rw [credentials, if_pos hat, hnetloc, hcut, List.append_assoc, List.cons_append,
    Text.cut_append hcolon]

theorem isSome_password? (h : u.netloc = user ++ .char ':' :: password ++ .char '@' :: rest)
    (hcolon : CodePoint.char ':' ∉ user) (hpassword : password ≠ []) : u.password?.isSome = true := by
  obtain ⟨more, hcredentials⟩ := exists_credentials rest
  simp [password?, hcredentials h hcolon, Option.filter_some, hpassword]

/-- What stands before the last mark says nothing about the host and the port. -/
theorem hostAndPort_eq {before before' : Text} (hu : u.netloc = before ++ .char '@' :: rest)
    (hv : v.netloc = before' ++ .char '@' :: rest) : u.hostAndPort = v.hostAndPort := by
  obtain ⟨more, place, hcut⟩ := exists_cutLast_user rest
  unfold hostAndPort
  rw [hu, hv, hcut, hcut]

theorem port?_eq {before before' : Text} (hu : u.netloc = before ++ .char '@' :: rest)
    (hv : v.netloc = before' ++ .char '@' :: rest) : u.port? = v.port? := by
  rw [port?, port?, hostAndPort_eq hu hv]

theorem hostName?_eq {before before' : Text} (hu : u.netloc = before ++ .char '@' :: rest)
    (hv : v.netloc = before' ++ .char '@' :: rest) : u.hostName? = v.hostName? := by
  rw [hostName?, hostName?, hostAndPort_eq hu hv]

end LooseUrl

namespace Url

variable {scheme user p q rest : Text}

/-! ## Masking by the looks -/

theorem maskAll_append {before : Text} (h : CodePoint.char ':' ∉ before) (after : Text) :
    maskAll (before ++ after) = before ++ maskAll after := by
  induction before with
  | nil => rfl
  | cons p before ih =>
    have hp : List.isPrefixOf (Text.ofString "://") (p :: (before ++ after)) = false := by
      have hne : CodePoint.char ':' ≠ p := fun e => h (e ▸ List.mem_cons_self)
      show (CodePoint.char ':' == p && _) = false
      rw [beq_eq_false_iff_ne.mpr hne, Bool.false_and]
    rw [List.cons_append, maskAll, if_neg (by rw [hp]; simp), ih fun hmem => h (.tail _ hmem)]
    rfl

theorem afterCredentials?_eq (huser : CodePoint.char ':' ∉ user) (hp : CodePoint.char '@' ∉ p)
    (rest : Text) :
    afterCredentials? (user ++ .char ':' :: (p ++ .char '@' :: rest)) =
      if user.isEmpty || p.isEmpty then none else some rest := by
  rw [afterCredentials?, Text.cut_append huser]
  dsimp only
  rw [Text.cut_append hp]

theorem maskAll_marks (t : Text) :
    maskAll (.char ':' :: .char '/' :: .char '/' :: t) =
      match afterCredentials? t with
      | some after => "://" ++ mask ++ ":" ++ mask ++ "@" ++ maskAll after
      | none => .char ':' :: .char '/' :: .char '/' :: maskAll t := by
  have hstart : List.isPrefixOf (Text.ofString "://")
      (CodePoint.char ':' :: .char '/' :: .char '/' :: t) = true :=
    List.isPrefixOf_iff_prefix.mpr (List.prefix_append (Text.ofString "://") t)
  have hcolon : CodePoint.char ':' ∉ [CodePoint.char '/', .char '/'] := by decide
  have hslashes : maskAll (.char '/' :: .char '/' :: t) = .char '/' :: .char '/' :: maskAll t :=
    maskAll_append hcolon t
  rw [maskAll, if_pos hstart]
  split
  · rename_i after hsome
    rw [show afterCredentials? t = some after from hsome]
  · rename_i hnone
    rw [show afterCredentials? t = none from hnone, hslashes]

/-- A user and a password are masked, and what follows them does not depend on them. -/
theorem maskAll_credentials (hs : IsScheme scheme) (huser : HasUserPoints (user ++ .char ':' :: p))
    (hcolon : CodePoint.char ':' ∉ user) (hne : user ≠ []) (hp : p ≠ []) (rest : Text) :
    maskAll (scheme ++ .char ':' :: .char '/' :: .char '/' ::
        (user ++ .char ':' :: p ++ .char '@' :: rest)) =
      scheme ++ ("://" ++ mask ++ ":" ++ mask ++ "@" ++ maskAll rest) := by
  have hat : CodePoint.char '@' ∉ p := by
    intro hmem
    exact huser.not_mem (by decide) (List.mem_append_right _ (.tail _ hmem))
  have hafter : afterCredentials? (user ++ .char ':' :: p ++ .char '@' :: rest) = some rest := by
    rw [List.append_assoc, List.cons_append, afterCredentials?_eq hcolon hat]
    simp [hne, hp]
  rw [maskAll_append hs.colon_not_mem, maskAll_marks, hafter]

/-! ## URLs alike -/

/-- What is written of a URL with a scheme and user information. -/
theorem toText_of_userinfo {u : Url} (hs : u.scheme ≠ []) (huser : u.userinfo ≠ []) :
    u.toText = u.scheme ++ .char ':' :: .char '/' :: .char '/' ::
      (u.userinfo ++ .char '@' :: (u.netloc ++ u.path ++ u.queryText ++ u.fragmentText)) := by
  simp [toText, authority, hs, huser]

theorem masked_of_error {t : Text} {problem : LooseUrl.Problem}
    (h : LooseUrl.parse t [] = .error problem) : masked t = maskAll t := by
  rw [masked, h]

theorem masked_of_password {t : Text} {u : LooseUrl} (h : LooseUrl.parse t [] = .ok u)
    (hpassword : u.password?.isSome = true) :
    masked t = match u.port? with
      | .ok port => maskedParts u port
      | .error _ => maskAll t := by
  rw [masked, h]
  exact if_pos hpassword

/-- Where users and passwords are written, parts are masked alike if they are the same behind these. -/
theorem maskedParts_eq {u v : LooseUrl} (hu : u.netloc = user ++ .char ':' :: p ++ .char '@' :: rest)
    (hv : v = { u with netloc := user ++ .char ':' :: q ++ .char '@' :: rest })
    (hcolon : CodePoint.char ':' ∉ user) (port : Option Nat) :
    maskedParts u port = maskedParts v port := by
  obtain ⟨more, hcredentials⟩ := LooseUrl.exists_credentials rest
  have hvnetloc : v.netloc = user ++ .char ':' :: q ++ .char '@' :: rest := by rw [hv]
  unfold maskedParts
  rw [hcredentials hu hcolon, hcredentials hvnetloc hcolon, LooseUrl.hostName?_eq hu hvnetloc, hv]
  rfl

theorem masked_eq_of_cut {s t : Text} {u v : LooseUrl} (hs : LooseUrl.parse s [] = .ok u)
    (ht : LooseUrl.parse t [] = .ok v) (hu : u.netloc = user ++ .char ':' :: p ++ .char '@' :: rest)
    (hv : v = { u with netloc := user ++ .char ':' :: q ++ .char '@' :: rest })
    (hcolon : CodePoint.char ':' ∉ user) (hp : p ≠ []) (hq : q ≠ [])
    (hall : ¬ LooseUrl.Cuttable s → maskAll s = maskAll t) : masked s = masked t := by
  have hvnetloc : v.netloc = user ++ .char ':' :: q ++ .char '@' :: rest := by rw [hv]
  have hport := LooseUrl.port?_eq hu hvnetloc
  rw [masked_of_password hs (LooseUrl.isSome_password? hu hcolon hp),
    masked_of_password ht (LooseUrl.isSome_password? hvnetloc hcolon hq), ← hport]
  cases hresult : u.port? with
  | ok port => exact maskedParts_eq hu hv hcolon port
  | error e =>
    apply hall
    rintro ⟨loose, port, hloose, hok⟩
    rw [← Except.ok.inj (hs.symm.trans hloose), hresult] at hok
    exact nomatch hok

/-- **Passwords are masked.**  URLs that differ in nothing but a password are written to the log alike, if
    the password is that of a user with a name, or if one of them can be cut into parts. -/
theorem masked_toText {u v : Url} (h : SameButPassword user u v) (hs : IsScheme u.scheme)
    (hu : HasUserPoints u.userinfo) (hv : HasUserPoints v.userinfo)
    (hcut : user ≠ [] ∨ LooseUrl.Cuttable u.toText) : masked u.toText = masked v.toText := by
  obtain ⟨p, q, hp, hq, hup, hvq⟩ := h.passwords
  have hutext := toText_of_userinfo hs.ne_nil (u := u) (by simp [hup])
  have hvtext := toText_of_userinfo (h.scheme ▸ hs.ne_nil) (u := v) (by simp [hvq])
  have hqueries : u.queryText = v.queryText := by rw [queryText, queryText, h.query]
  have hfragments : u.fragmentText = v.fragmentText := by rw [fragmentText, fragmentText, h.fragment]
  -- both are written as one scheme, a user, a password, and one rest
  rw [← h.scheme, ← h.netloc, ← h.path, ← hqueries, ← hfragments] at hvtext
  rw [hup] at hu hutext
  rw [hvq] at hv hvtext
  obtain ⟨server, behind, hparse⟩ := LooseUrl.exists_parse_user hs
    (u.netloc ++ u.path ++ u.queryText ++ u.fragmentText)
  have hparsed₁ := hparse _ hu
  have hparsed₂ := hparse _ hv
  rw [← hutext] at hparsed₁
  rw [← hvtext] at hparsed₂
  -- what cannot be cut has a user
  have hall : ¬ LooseUrl.Cuttable u.toText → maskAll u.toText = maskAll v.toText := by
    intro hnot
    have hne := hcut.resolve_right hnot
    rw [hutext, hvtext, maskAll_credentials hs hu h.colon hne hp,
      maskAll_credentials hs hv h.colon hne hq]
  -- the servers behind the passwords are the same, so both are cut into parts or neither is
  have hchecked : (LooseUrl.checkNetloc (user ++ .char ':' :: p ++ .char '@' :: server)).isSome =
      (LooseUrl.checkNetloc (user ++ .char ':' :: q ++ .char '@' :: server)).isSome := by
    rw [LooseUrl.isSome_checkNetloc_append hu, LooseUrl.isSome_checkNetloc_append hv]
  cases hcheck : LooseUrl.checkNetloc (user ++ .char ':' :: p ++ .char '@' :: server) with
  | some problem =>
    rw [hcheck] at hparsed₁ hchecked
    obtain ⟨problem', hproblem'⟩ := Option.isSome_iff_exists.mp hchecked.symm
    rw [hproblem'] at hparsed₂
    rw [masked_of_error hparsed₁, masked_of_error hparsed₂]
    apply hall
    rintro ⟨loose, -, hloose, -⟩
    cases hparsed₁.symm.trans hloose
  | none =>
    rw [hcheck] at hparsed₁ hchecked
    rw [Option.isSome_eq_false_iff.mp hchecked.symm |> Option.isNone_iff_eq_none.mp] at hparsed₂
    exact masked_eq_of_cut hparsed₁ hparsed₂ rfl rfl h.colon hp hq hall

end Url

end ImageDiscovery
