import ImageDiscovery.Proofs.Url.Masked

/-!
# Hidden passwords — which of them are masked

An address with a scheme, a user, a password and a server is put together of these in one way only, and
`Url.masked` leaves an address of that form.  Its password is three asterisks if the address can be cut
into parts.  If it cannot, what looks like a password ends at the first mark that may end one, and
there has to be a user in front of it.
-/

namespace ImageDiscovery

namespace LooseUrl

open Url (endsServer cutLast_append cutLast_of_not_mem)

variable {u : LooseUrl} {before server : Text} {p : CodePoint}

/-! ## Servers as they are shown -/

/-- A server by itself. -/
def ofServer (server : Text) : LooseUrl := ⟨[], server, [], [], [], []⟩

theorem hostAndPort_eq_ofServer (h : u.netloc = before ++ .char '@' :: server)
    (hat : CodePoint.char '@' ∉ server) : u.hostAndPort = (ofServer server).hostAndPort := by
  unfold hostAndPort
  rw [h, cutLast_append hat, show (ofServer server).netloc = server from rfl, cutLast_of_not_mem hat]

theorem port?_eq_ofServer (h : u.netloc = before ++ .char '@' :: server)
    (hat : CodePoint.char '@' ∉ server) : u.port? = (ofServer server).port? := by
  rw [port?, port?, hostAndPort_eq_ofServer h hat]

theorem hostName?_eq_ofServer (h : u.netloc = before ++ .char '@' :: server)
    (hat : CodePoint.char '@' ∉ server) : u.hostName? = (ofServer server).hostName? := by
  rw [hostName?, hostName?, hostAndPort_eq_ofServer h hat]

theorem mem_netloc_of_host (h : p ∈ u.hostAndPort.1) : p ∈ u.netloc := by
  have hplace : p ∈ (Url.cutLast (.char '@') u.netloc).2 → p ∈ u.netloc := fun hmem =>
    (Url.of_mem_snd_cutLast hmem).1
  apply hplace
  unfold hostAndPort at h
  dsimp only at h
  split at h
  · rename_i inner hopening
    rw [(Text.cut_eq_some hopening).1]
    exact List.mem_append_right _ (.tail _ (Text.mem_of_mem_fst_cut h))
  · exact Text.mem_of_mem_fst_cut h

theorem credentials_eq {user password : Text}
    (h : u.netloc = user ++ .char ':' :: password ++ .char '@' :: server)
    (huser : CodePoint.char ':' ∉ user) (hat : CodePoint.char '@' ∉ server) :
    u.credentials = some (user, some password) := by
  have hmem : u.netloc.contains (.char '@') = true := by
    rw [h, List.contains_iff_mem]
    simp
  rw [credentials, if_pos hmem, h, cutLast_append hat, Text.cut_append huser]

/-- The name of a host has points of the host, and what comes of them when they are lower-cased. -/
theorem of_mem_hostName? {name : Text} (h : u.hostName? = some name) (hp : p ∈ name) :
    p ∈ u.netloc ∨ 0x60 < p.toNat := by
  unfold hostName? at h
  dsimp only at h
  split at h
  · exact nomatch h
  · rw [← Option.some.inj h, List.mem_append] at hp
    rcases hp with hp | hp
    · exact (Text.mem_or_lt_of_mem_lower hp).imp_left fun hmem =>
        mem_netloc_of_host (Text.mem_of_mem_fst_cut hmem)
    · -- a zone is written as it stands in the host
      split at hp
      · rename_i zone hzone
        left
        apply mem_netloc_of_host
        rw [(Text.cut_eq_some (Prod.ext rfl hzone)).1]
        exact List.mem_append_right _ hp
      · exact nomatch hp

/-! ## What is written behind a server -/

/-- Nothing, or a mark that ends a server and something behind it. -/
def IsBehind (t : Text) : Prop := ∀ p ∈ t.head?, endsServer p = true

theorem isBehind_cons (h : endsServer p = true) (t : Text) : IsBehind (p :: t) := by
  rintro q ⟨⟩
  exact h

theorem IsBehind.append {s t : Text} (hs : IsBehind s) (ht : IsBehind t) : IsBehind (s ++ t) := by
  cases s with
  | nil => exact ht
  | cons p rest => exact hs

theorem isBehind_marked {mark : Char} (h : endsServer (.char mark) = true) (part : Text) :
    IsBehind (marked mark part) := by
  unfold marked
  split
  · exact nofun
  · exact isBehind_cons h part

/-- A path with the slash in front that one behind a server has. -/
def rooted (path : Text) : Text :=
  if path.isEmpty || path.head? = some (.char '/') then path else .char '/' :: path

theorem isBehind_rooted (path : Text) : IsBehind (rooted path) := by
  unfold rooted
  split
  · rename_i hpath
    rw [Bool.or_eq_true, List.isEmpty_iff, decide_eq_true_eq] at hpath
    intro p hp
    rcases hpath with rfl | hslash
    · exact nomatch hp
    · rw [hslash] at hp
      obtain rfl := Option.some.inj hp
      decide
  · exact isBehind_cons (by decide) path

theorem exists_toText_server (hscheme : u.scheme ≠ []) (hnetloc : u.netloc ≠ []) :
    ∃ behind, IsBehind behind ∧
      u.toText = u.scheme ++ .char ':' :: .char '/' :: .char '/' :: (u.netloc ++ behind) := by
  refine ⟨rooted (u.path ++ marked ';' u.params) ++ (marked '?' u.query ++ marked '#' u.fragment), ?_, ?_⟩
  · exact (isBehind_rooted _).append
      ((isBehind_marked (by decide) _).append (isBehind_marked (by decide) _))
  · have hserver : (!u.netloc.isEmpty || decide (u.scheme ∈ serverSchemes) ||
        List.isPrefixOf (Text.ofString "//") (u.path ++ marked ';' u.params)) = true := by
      simp [hnetloc]
    have hwritten : u.scheme.isEmpty = false := by simpa using hscheme
    unfold toText
    dsimp only
    rw [hwritten, if_pos hserver, if_neg Bool.false_ne_true]
    simp only [rooted, List.append_assoc, List.cons_append, List.nil_append]

end LooseUrl

namespace Url

open LooseUrl (IsBehind ReadsAsScheme isUnbroken cleaned checkNetloc)

/-! ## Masking by the looks -/

/-- What stands in front of the first slash is kept. -/
theorem exists_maskAll_append {t behind : Text} (ht : CodePoint.char '/' ∉ t) (hbehind : IsBehind behind) :
    ∃ behind', IsBehind behind' ∧ maskAll (t ++ behind) = t ++ behind' := by
  induction t with
  | nil =>
    refine ⟨maskAll behind, ?_, rfl⟩
    cases behind with
    | nil =>
      rw [maskAll]
      exact hbehind
    | cons p rest =>
      have hcolon : CodePoint.char ':' ∉ [p] := by
        rintro (_ | ⟨_, ⟨⟩⟩)
        exact absurd (hbehind _ rfl) (by decide)
      rw [← List.singleton_append, maskAll_append hcolon]
      exact hbehind
  | cons p t ih =>
    obtain ⟨behind', hbehind', hkept⟩ := ih fun hmem => ht (.tail _ hmem)
    by_cases hmarks : Text.ofString "://" <+: p :: (t ++ behind)
    · -- the slashes of these marks stand behind the text
      obtain ⟨rest, hrest⟩ := hmarks
      obtain ⟨rfl, hslashes⟩ := List.cons_eq_cons.mp hrest
      cases t with
      | cons q t =>
        obtain ⟨rfl, -⟩ := List.cons_eq_cons.mp hslashes
        exact absurd (.tail _ List.mem_cons_self) ht
      | nil =>
        rw [List.nil_append] at hslashes
        subst hslashes
        show ∃ behind', _ ∧ maskAll (.char ':' :: .char '/' :: .char '/' :: rest) = _
        rw [maskAll_marks]
        split
        · exact ⟨_, LooseUrl.isBehind_cons (by decide) _, rfl⟩
        · exact ⟨_, LooseUrl.isBehind_cons (by decide) _, rfl⟩
    · refine ⟨behind', hbehind', ?_⟩
      rw [List.cons_append, maskAll, if_neg (mt List.isPrefixOf_iff_prefix.mp hmarks), hkept]
      rfl

/-! ## Addresses with a password -/

/-- An address that is cut around a user and a password. -/
structure WithPassword where
  front : Text
  user : Text
  password : Text
  server : Text
  behind : Text

/-- A port that is not zero, and the colon in front of it. -/
def shownPort : Option Nat → Text
  | some (n + 1) => .char ':' :: Text.ofNat (n + 1)
  | _ => []

/-- What is written of a server: its host in lower case, or a word that says there is none, and its port. -/
def shownServer (server : Text) : Text :=
  let place := LooseUrl.ofServer (server.filter isUnbroken)
  place.hostName?.getD noHost ++ shownPort (place.port?.toOption.getD none)

theorem of_mem_shownServer {server : Text} {p : CodePoint} (h : p ∈ shownServer server) :
    p ∈ server ∨ 0x40 < p.toNat ∨ p = .char ':' ∨ p = .char '-' ∨ p.isDigit = true := by
  unfold shownServer at h
  dsimp only at h
  rw [List.mem_append] at h
  rcases h with h | h
  · cases hname : (LooseUrl.ofServer (server.filter isUnbroken)).hostName? with
    | none =>
      rw [hname] at h
      right; left
      revert p
      decide
    | some name =>
      rw [hname] at h
      rcases LooseUrl.of_mem_hostName? hname h with hmem | hlt
      · exact .inl (List.mem_filter.mp hmem).1
      · exact .inr (.inl (by omega))
  · unfold shownPort at h
    split at h
    · rename_i n hport
      exact .inr (.inr ((List.mem_cons.mp h).imp_right (of_mem_ofInt (n := Int.ofNat (n + 1)))))
    · exact nomatch h

theorem not_mark_of_mem_shownServer {server : Text}
    (h : ∀ p ∈ server, endsServer p = false ∧ p ≠ .char '@') :
    ∀ p ∈ shownServer server, endsServer p = false ∧ p ≠ .char '@' := by
  intro p hp
  rcases of_mem_shownServer hp with hmem | hpoint
  · exact h p hmem
  · -- the marks are no digits, and no points behind the at sign
    have hother : ∀ q : Char, q.toNat ≤ 0x40 → q ≠ ':' → q ≠ '-' → (CodePoint.char q).isDigit = false →
        p ≠ .char q := by
      rintro q hq hcolon hminus hdigit rfl
      rcases hpoint with hlt | hsame | hsame | hd
      · exact absurd hlt (Nat.not_lt.mpr hq)
      · exact hcolon (CodePoint.char.inj hsame)
      · exact hminus (CodePoint.char.inj hsame)
      · exact absurd (hdigit.symm.trans hd) Bool.false_ne_true
    refine ⟨?_, hother _ (by decide) (by decide) (by decide) (by decide)⟩
    rw [Bool.eq_false_iff]
    intro hends
    rcases eq_of_endsServer hends with hsame | hsame | hsame
    all_goals exact hother _ (by decide) (by decide) (by decide) (by decide) hsame

namespace WithPassword

variable {a b : WithPassword}

def authority (a : WithPassword) : Text := a.user ++ .char ':' :: (a.password ++ .char '@' :: a.server)

def toText (a : WithPassword) : Text :=
  a.front ++ .char ':' :: .char '/' :: .char '/' :: (a.authority ++ a.behind)

/-- The user ends at the first colon and the password at the last at sign, and all of it stands between
    a scheme and the first mark that ends a server. -/
structure IsCut (a : WithPassword) : Prop where
  front : ReadsAsScheme a.front
  user : ∀ p ∈ a.user, endsServer p = false ∧ p ≠ .char ':'
  password : ∀ p ∈ a.password, endsServer p = false
  server : ∀ p ∈ a.server, endsServer p = false ∧ p ≠ .char '@'
  behind : IsBehind a.behind

theorem filter_authority (a : WithPassword) :
    a.authority.filter isUnbroken = a.user.filter isUnbroken ++ .char ':' :: a.password.filter isUnbroken ++
      .char '@' :: a.server.filter isUnbroken := by
  rw [authority, List.filter_append, List.filter_cons_of_pos (by decide), List.filter_append,
    List.filter_cons_of_pos (by decide), List.append_assoc]
  rfl

namespace IsCut

theorem colon_not_mem (h : a.IsCut) : CodePoint.char ':' ∉ a.user := fun hmem => (h.user _ hmem).2 rfl

theorem at_not_mem (h : a.IsCut) : CodePoint.char '@' ∉ a.server := fun hmem => (h.server _ hmem).2 rfl

theorem colon_not_mem_filter (h : a.IsCut) : CodePoint.char ':' ∉ a.user.filter isUnbroken := fun hmem =>
  h.colon_not_mem (List.mem_filter.mp hmem).1

theorem at_not_mem_filter (h : a.IsCut) : CodePoint.char '@' ∉ a.server.filter isUnbroken := fun hmem =>
  h.at_not_mem (List.mem_filter.mp hmem).1

theorem authority (h : a.IsCut) : ∀ p ∈ a.authority, endsServer p = false := by
  refine List.forall_mem_append.mpr ⟨fun p hp => (h.user p hp).1, ?_⟩
  refine List.forall_mem_cons.mpr ⟨by decide, List.forall_mem_append.mpr ⟨h.password, ?_⟩⟩
  exact List.forall_mem_cons.mpr ⟨by decide, fun p hp => (h.server p hp).1⟩

/-- A text is cut in one way only. -/
theorem eq_of_toText_eq (ha : a.IsCut) (hb : b.IsCut) (h : a.toText = b.toText) : a = b := by
  have hfront := congrArg (Text.cut (.char ':')) h
  rw [toText, toText, Text.cut_append ha.front.colon_not_mem, Text.cut_append hb.front.colon_not_mem]
    at hfront
  obtain ⟨hfront, hrest⟩ := Prod.mk.inj hfront
  have hrest : a.authority ++ a.behind = b.authority ++ b.behind := by simpa using hrest
  have hserver := congrArg (upTo endsServer) hrest
  rw [upTo_append ha.authority ha.behind, upTo_append hb.authority hb.behind] at hserver
  obtain ⟨hauthority, hbehind⟩ := Prod.mk.inj hserver
  have hcuts : ∀ {c : WithPassword}, c.IsCut →
      (cutLast (.char '@') c.authority = (c.user ++ .char ':' :: c.password, c.server)) ∧
        Text.cut (.char ':') (c.user ++ .char ':' :: c.password) = (c.user, some c.password) := by
    intro c hc
    refine ⟨?_, Text.cut_append hc.colon_not_mem c.password⟩
    rw [WithPassword.authority, ← List.cons_append, ← List.append_assoc, cutLast_append hc.at_not_mem]
  have hlast := (hcuts ha).1
  rw [hauthority, (hcuts hb).1] at hlast
  obtain ⟨hlogin, hserver⟩ := Prod.mk.inj hlast
  have hfirst := (hcuts ha).2
  rw [← hlogin, (hcuts hb).2] at hfirst
  obtain ⟨huser, hpassword⟩ := Prod.mk.inj hfirst
  cases a
  cases b
  simp_all

theorem parse_toText (h : a.IsCut) :
    LooseUrl.parse a.toText [] =
      match checkNetloc (a.authority.filter isUnbroken) with
      | some problem => .error problem
      | none => .ok { LooseUrl.behindServer (cleaned a.front).asciiLower (a.behind.filter isUnbroken) with
          netloc := a.authority.filter isUnbroken } := by
  have hauthority : ∀ p ∈ a.authority.filter isUnbroken, endsServer p = false := fun p hp =>
    h.authority p (List.mem_filter.mp hp).1
  have hbehind : IsBehind (a.behind.filter isUnbroken) := by
    cases hb : a.behind with
    | nil => exact nofun
    | cons p rest =>
      have hp : endsServer p = true := h.behind p (by simp [hb])
      have hkept : isUnbroken p = true := by
        rcases eq_of_endsServer hp with rfl | rfl | rfl <;> decide
      rw [List.filter_cons_of_pos hkept]
      exact LooseUrl.isBehind_cons hp _
  have hparse := LooseUrl.parse_of_front h.front (a.authority ++ a.behind)
  rw [List.filter_append, upTo_append hauthority hbehind] at hparse
  exact hparse

end IsCut

/-- The authority may be that of an address which is cut into parts. -/
def HasPlace (a : WithPassword) : Prop := checkNetloc (a.authority.filter isUnbroken) = none

theorem IsCut.parse_of_hasPlace (h : a.IsCut) (hplace : a.HasPlace) :
    ∃ u, LooseUrl.parse a.toText [] = .ok u ∧ u.scheme = (cleaned a.front).asciiLower ∧
      u.netloc = a.authority.filter isUnbroken := by
  have hparse := h.parse_toText
  rw [show checkNetloc (a.authority.filter isUnbroken) = none from hplace] at hparse
  exact ⟨_, hparse, rfl, rfl⟩

theorem IsCut.parse_of_not_hasPlace (h : a.IsCut) (hplace : ¬ a.HasPlace) :
    ∃ problem, LooseUrl.parse a.toText [] = .error problem := by
  have hparse := h.parse_toText
  obtain ⟨problem, hproblem⟩ := Option.ne_none_iff_exists'.mp hplace
  rw [hproblem] at hparse
  exact ⟨problem, hparse⟩

/-- What is written as a port is one, if anything is. -/
def HasPort (a : WithPassword) : Prop :=
  ∃ port, (LooseUrl.ofServer (a.server.filter isUnbroken)).port? = .ok port

/-- A password that is masked.  In an address that is cut into parts there has to be something of it that
    breaks no line.  In an address that is not, there has to be a user, and no at sign in the password. -/
structure IsHidden (a : WithPassword) : Prop where
  seen : a.HasPlace → ∃ p ∈ a.password, isUnbroken p = true
  found : a.HasPlace ∧ a.HasPort ∨ a.user ≠ [] ∧ CodePoint.char '@' ∉ a.password

/-- An address with its password masked.  The user and the server are shown, or the user is masked too. -/
def IsMasked (a b : WithPassword) : Prop :=
  b.password = mask ∧
    (b.user = a.user.filter isUnbroken ∧ b.server = shownServer a.server ∨
      b.user = mask ∧ b.server = a.server)

/-- An address with a password that is not hidden: as it was, or masked up to an at sign and no further. -/
def IsShown (a b : WithPassword) : Prop :=
  b.server = a.server ∧
    (b.user = a.user ∧ b.password = a.password ∨
      ∃ first last, a.password = first ++ .char '@' :: last ∧
        b.user = mask ∧ b.password = mask ++ .char '@' :: last)

theorem not_endsServer_mask : ∀ p ∈ mask, endsServer p = false ∧ p ≠ .char ':' := by decide

/-! ## Where a password is masked -/

/-- What looks like a password ends at the first at sign. -/
theorem exists_maskAll_first {first rest : Text} (h : a.IsCut) (hat : CodePoint.char '@' ∉ first)
    (hsplit : a.password ++ .char '@' :: a.server = first ++ .char '@' :: rest) :
    ∃ behind, IsBehind behind ∧ maskAll a.toText =
      if a.user.isEmpty || first.isEmpty then { a with behind }.toText
      else a.front ++ ("://" ++ mask ++ ":" ++ mask ++ "@" ++ (rest ++ behind)) := by
  have hslash : ∀ {t : Text}, (∀ p ∈ t, endsServer p = false) → CodePoint.char '/' ∉ t :=
    fun ht hmem => absurd (ht _ hmem) (by decide)
  have hrest : ∀ p ∈ rest, endsServer p = false := by
    intro p hp
    apply h.authority p
    rw [authority, hsplit]
    simp [hp]
  have htext : a.authority ++ a.behind =
      a.user ++ .char ':' :: (first ++ .char '@' :: (rest ++ a.behind)) := by
    rw [authority, hsplit]
    simp
  have hafter := afterCredentials?_eq h.colon_not_mem hat (rest ++ a.behind)
  rw [← htext] at hafter
  rw [toText, maskAll_append h.front.colon_not_mem, maskAll_marks, hafter]
  by_cases hempty : (a.user.isEmpty || first.isEmpty) = true
  · obtain ⟨behind, hbehind, hkept⟩ := exists_maskAll_append (hslash h.authority) h.behind
    refine ⟨behind, hbehind, ?_⟩
    rw [if_pos hempty, if_pos hempty, hkept]
    rfl
  · obtain ⟨behind, hbehind, hkept⟩ := exists_maskAll_append (hslash hrest) h.behind
    refine ⟨behind, hbehind, ?_⟩
    rw [if_neg hempty, if_neg hempty, ← hkept]

theorem exists_maskAll_toText (h : a.IsCut) (hne : a.password ≠ []) :
    ∃ b : WithPassword, b.IsCut ∧ maskAll a.toText = b.toText ∧
      if a.user ≠ [] ∧ CodePoint.char '@' ∉ a.password then IsMasked a b else IsShown a b := by
  cases hcut : a.password.cut (.char '@') with
  | mk first last =>
    cases last with
    | none =>
      obtain ⟨rfl, hat⟩ := Text.cut_eq_none hcut
      obtain ⟨behind, hbehind, hmask⟩ := exists_maskAll_first h hat rfl
      by_cases huser : a.user = []
      · rw [if_pos (by simp [huser])] at hmask
        refine ⟨{ a with behind }, ⟨h.front, h.user, h.password, h.server, hbehind⟩, hmask, ?_⟩
        rw [if_neg fun hfound => hfound.1 huser]
        exact ⟨rfl, .inl ⟨rfl, rfl⟩⟩
      · rw [if_neg (by simp [huser, hne])] at hmask
        refine ⟨⟨a.front, mask, mask, a.server, behind⟩,
          ⟨h.front, not_endsServer_mask, fun p hp => (not_endsServer_mask p hp).1, h.server, hbehind⟩,
          hmask, ?_⟩
        rw [if_pos ⟨huser, hat⟩]
        exact ⟨rfl, .inr ⟨rfl, rfl⟩⟩
    | some last =>
      obtain ⟨hpassword, hat⟩ := Text.cut_eq_some hcut
      have hmem : CodePoint.char '@' ∈ a.password := by simp [hpassword]
      have hsplit : a.password ++ .char '@' :: a.server =
          first ++ .char '@' :: (last ++ .char '@' :: a.server) := by
        simp [hpassword]
      obtain ⟨behind, hbehind, hmask⟩ := exists_maskAll_first h hat hsplit
      have hnot : ¬ (a.user ≠ [] ∧ CodePoint.char '@' ∉ a.password) := fun hfound => hfound.2 hmem
      simp only [if_neg hnot]
      by_cases hkept : (a.user.isEmpty || first.isEmpty) = true
      · rw [if_pos hkept] at hmask
        exact ⟨{ a with behind }, ⟨h.front, h.user, h.password, h.server, hbehind⟩, hmask, rfl,
          .inl ⟨rfl, rfl⟩⟩
      · rw [if_neg hkept] at hmask
        have hpoints : ∀ p ∈ mask ++ .char '@' :: last, endsServer p = false := by
          refine List.forall_mem_append.mpr ⟨fun p hp => (not_endsServer_mask p hp).1, ?_⟩
          refine List.forall_mem_cons.mpr ⟨by decide, fun p hp => h.password p ?_⟩
          rw [hpassword]
          simp [hp]
        exact ⟨⟨a.front, mask, mask ++ .char '@' :: last, a.server, behind⟩,
          ⟨h.front, not_endsServer_mask, hpoints, h.server, hbehind⟩, hmask, rfl,
          .inr ⟨first, last, hpassword, rfl, rfl⟩⟩

/-! ## Masking of parts -/

variable {u : LooseUrl} {user password server : Text}

theorem maskedParts_eq_toText {port : Option Nat}
    (hnetloc : u.netloc = user ++ .char ':' :: password ++ .char '@' :: server.filter isUnbroken)
    (huser : CodePoint.char ':' ∉ user) (hat : CodePoint.char '@' ∉ server) (hport : u.port? = .ok port) :
    maskedParts u port = LooseUrl.toText
      { u with netloc := user ++ .char ':' :: (mask ++ .char '@' :: shownServer server) } := by
  have hserver : CodePoint.char '@' ∉ server.filter isUnbroken := fun hmem =>
    hat (List.mem_filter.mp hmem).1
  rw [LooseUrl.port?_eq_ofServer hnetloc hserver] at hport
  have hshown : user ++ ":" ++ mask ++ "@" ++ u.hostName?.getD noHost ++ shownPort port =
      user ++ .char ':' :: (mask ++ .char '@' :: shownServer server) := by
    unfold shownServer
    dsimp only
    rw [LooseUrl.hostName?_eq_ofServer hnetloc hserver, hport]
    simp only [List.append_assoc]
    rfl
  unfold maskedParts
  rw [LooseUrl.credentials_eq hnetloc huser hserver]
  exact congrArg (fun netloc => LooseUrl.toText { u with netloc }) hshown

theorem exists_maskedParts (h : a.IsCut) {port : Option Nat}
    (hscheme : u.scheme = (cleaned a.front).asciiLower)
    (hnetloc : u.netloc = a.authority.filter isUnbroken) (hport : u.port? = .ok port) :
    ∃ b : WithPassword, b.IsCut ∧ maskedParts u port = b.toText ∧ IsMasked a b := by
  have hcolon : CodePoint.char ':' ∉ a.user.filter isUnbroken := fun hmem =>
    h.colon_not_mem (List.mem_filter.mp hmem).1
  have hne : u.scheme ≠ [] := by
    rw [hscheme]
    exact h.front.isScheme.ne_nil
  rw [filter_authority] at hnetloc
  rw [maskedParts_eq_toText hnetloc hcolon h.at_not_mem hport]
  let shown : LooseUrl := { u with
    netloc := a.user.filter isUnbroken ++ .char ':' :: (mask ++ .char '@' :: shownServer a.server) }
  obtain ⟨behind, hbehind, htext⟩ := shown.exists_toText_server hne (by simp [shown])
  refine ⟨⟨u.scheme, a.user.filter isUnbroken, mask, shownServer a.server, behind⟩, ?_, htext,
    rfl, .inl ⟨rfl, rfl⟩⟩
  constructor
  case front =>
    show ReadsAsScheme u.scheme
    rw [hscheme]
    exact LooseUrl.readsAsScheme_of_isScheme h.front.isScheme
  case user => exact fun p hp => h.user p (List.mem_filter.mp hp).1
  case password => exact fun p hp => (not_endsServer_mask p hp).1
  case server => exact not_mark_of_mem_shownServer h.server
  case behind => exact hbehind

/-! ## What is written to the log -/

/-- If nothing is left of a password, the address is taken as one without. -/
theorem masked_of_not_seen (h : a.IsCut) (hplace : a.HasPlace)
    (hseen : ¬ ∃ p ∈ a.password, isUnbroken p = true) : masked a.toText = a.toText := by
  obtain ⟨u, hparse, -, hnetloc⟩ := h.parse_of_hasPlace hplace
  have hempty : a.password.filter isUnbroken = [] :=
    List.filter_eq_nil_iff.mpr fun p hp hunbroken => hseen ⟨p, hp, hunbroken⟩
  have hnone : u.password?.isSome = false := by
    rw [filter_authority, hempty] at hnetloc
    rw [LooseUrl.password?, LooseUrl.credentials_eq hnetloc h.colon_not_mem_filter h.at_not_mem_filter]
    rfl
  rw [masked, hparse]
  exact if_neg (by rw [hnone]; exact Bool.false_ne_true)

theorem exists_masked_of_seen (h : a.IsCut) (hplace : a.HasPlace)
    (hseen : ∃ p ∈ a.password, isUnbroken p = true) :
    ∃ u : LooseUrl, u.scheme = (cleaned a.front).asciiLower ∧ u.netloc = a.authority.filter isUnbroken ∧
      u.port? = (LooseUrl.ofServer (a.server.filter isUnbroken)).port? ∧
      masked a.toText = match u.port? with
        | .ok port => maskedParts u port
        | .error _ => maskAll a.toText := by
  obtain ⟨u, hparse, hscheme, hnetloc⟩ := h.parse_of_hasPlace hplace
  have hparts := hnetloc.trans (filter_authority a)
  have hpassword : a.password.filter isUnbroken ≠ [] := by
    obtain ⟨p, hp, hunbroken⟩ := hseen
    exact List.ne_nil_of_mem (List.mem_filter.mpr ⟨hp, hunbroken⟩)
  exact ⟨u, hscheme, hnetloc, LooseUrl.port?_eq_ofServer hparts h.at_not_mem_filter,
    masked_of_password hparse (LooseUrl.isSome_password? hparts h.colon_not_mem_filter hpassword)⟩

theorem exists_masked_of_parts (h : a.IsCut) (hplace : a.HasPlace) (hport : a.HasPort)
    (hseen : ∃ p ∈ a.password, isUnbroken p = true) :
    ∃ b : WithPassword, b.IsCut ∧ masked a.toText = b.toText ∧ IsMasked a b := by
  obtain ⟨u, hscheme, hnetloc, hsame, hmasked⟩ := exists_masked_of_seen h hplace hseen
  obtain ⟨port, hok⟩ := hport
  rw [hsame.trans hok] at hmasked
  rw [hmasked]
  exact exists_maskedParts h hscheme hnetloc (hsame.trans hok)

theorem masked_of_not_parts (h : a.IsCut) (hparts : ¬ (a.HasPlace ∧ a.HasPort))
    (hseen : a.HasPlace → ∃ p ∈ a.password, isUnbroken p = true) :
    masked a.toText = maskAll a.toText := by
  by_cases hplace : a.HasPlace
  · obtain ⟨u, -, -, hsame, hmasked⟩ := exists_masked_of_seen h hplace (hseen hplace)
    cases hport : u.port? with
    | ok port => exact absurd ⟨hplace, port, hsame.symm.trans hport⟩ hparts
    | error e => rwa [hport] at hmasked
  · obtain ⟨problem, hparse⟩ := h.parse_of_not_hasPlace hplace
    exact masked_of_error hparse

/-- **Where passwords are hidden.**  An address with a scheme, a user, a password and a server is written
    to the log as one.  If the password is hidden, asterisks stand in its place, and beside them a user and
    a server that do not depend on it.  If it is not, then it is shown, or the end of it is. -/
theorem exists_masked_toText (h : a.IsCut) (hne : a.password ≠ []) :
    ∃ b : WithPassword, b.IsCut ∧ masked a.toText = b.toText ∧
      (a.IsHidden → IsMasked a b) ∧ (¬ a.IsHidden → IsShown a b) := by
  by_cases hseen : a.HasPlace → ∃ p ∈ a.password, isUnbroken p = true
  · by_cases hparts : a.HasPlace ∧ a.HasPort
    · obtain ⟨b, hcut, htext, hb⟩ := exists_masked_of_parts h hparts.1 hparts.2 (hseen hparts.1)
      exact ⟨b, hcut, htext, fun _ => hb, fun hno => absurd ⟨hseen, .inl hparts⟩ hno⟩
    · obtain ⟨b, hcut, htext, hb⟩ := exists_maskAll_toText h hne
      refine ⟨b, hcut, (masked_of_not_parts h hparts hseen).trans htext, fun hyes => ?_, fun hno => ?_⟩
      · rwa [if_pos (hyes.found.resolve_left hparts)] at hb
      · rwa [if_neg fun hfound => hno ⟨hseen, .inr hfound⟩] at hb
  · obtain ⟨hplace, hnot⟩ := Classical.not_imp.mp hseen
    exact ⟨a, h, masked_of_not_seen h hplace hnot, fun hyes => absurd hyes.seen hseen,
      fun _ => ⟨rfl, .inl ⟨rfl, rfl⟩⟩⟩

/-- An address with a bracket that is not closed, of a server that is none. -/
def unclosed : WithPassword := ⟨"https", "user", "secret", "[::1", "/"⟩

theorem isCut_unclosed : unclosed.IsCut where
  front := ⟨by decide, by decide⟩
  user := by decide
  password := by decide
  server := by decide
  behind := LooseUrl.isBehind_cons (by decide) _

theorem exists_masked_toText_unclosed : unclosed.IsCut ∧ unclosed.password ≠ [] ∧ unclosed.IsHidden ∧
    ∃ b : WithPassword, b.IsCut ∧ masked "https://user:secret@[::1/" = b.toText ∧ IsMasked unclosed b := by
  have hne : unclosed.password ≠ [] := by decide
  have hhidden : unclosed.IsHidden := ⟨fun _ => by decide, .inr (by decide)⟩
  obtain ⟨b, hcut, htext, hb, -⟩ := exists_masked_toText isCut_unclosed hne
  exact ⟨isCut_unclosed, hne, hhidden, b, hcut, htext, hb hhidden⟩

/-- A server whose port is too large, and a password without a user. -/
def userless : WithPassword := ⟨"https", "", "secret", "example.com:99999", "/"⟩

theorem isCut_userless : userless.IsCut where
  front := ⟨by decide, by decide⟩
  user := by decide
  password := by decide
  server := by decide
  behind := LooseUrl.isBehind_cons (by decide) _

/-- Not every password is masked. -/
theorem exists_password_not_masked : ∃ a : WithPassword,
    a.toText = "https://:secret@example.com:99999/" ∧ a.IsCut ∧ a.password ≠ [] ∧
      ∀ b : WithPassword, b.IsCut → masked a.toText = b.toText → b.password ≠ mask := by
  refine ⟨userless, by decide, isCut_userless, by decide, fun b hb htext => ?_⟩
  have hport : ¬ userless.HasPort := by
    rintro ⟨port, hok⟩
    have herror : (LooseUrl.ofServer (userless.server.filter isUnbroken)).port? = .error () := by rfl
    exact nomatch herror.symm.trans hok
  have hmasked := masked_of_not_parts isCut_userless (fun hparts => hport hparts.2) fun _ => by decide
  obtain ⟨c, hcut, hsame, hshown⟩ := exists_maskAll_toText isCut_userless (by decide)
  rw [if_neg (by decide)] at hshown
  obtain rfl := hb.eq_of_toText_eq hcut (htext.symm.trans (hmasked.trans hsame))
  obtain ⟨-, ⟨-, hpassword⟩ | ⟨first, last, hpassword, -⟩⟩ := hshown
  · rw [hpassword]
    decide
  · have hmem : CodePoint.char '@' ∈ userless.password := by
      rw [hpassword]
      simp
    exact absurd hmem (by decide)

end WithPassword

end Url

end ImageDiscovery
