import ImageDiscovery.Proofs.Text.Lowered
import ImageDiscovery.Proofs.Url.Recomposed

/-!
# Places — the hosts, ports and brackets of servers

What stands behind the user of an address is cut into a host and a port.  A host is shown in lower case,
but for its zone, and what is shown of it is shown for itself.  A host without marks and the port behind it
are read as they are shown; with a mark in the host, less than all of it is read.
-/

namespace ImageDiscovery

/-! ## Points that look like marks -/

theorem Ranges.exists_of_search {a : Array (Nat × Nat)} {n lo hi : Nat} {interval : Nat × Nat}
    (h : search a n lo hi = some interval) : interval ∈ a := by
  fun_induction search a n lo hi with
  | case1 lo hi _ mid first last hmid hle ih => exact ih h
  | case2 lo hi _ mid first last hmid hle ih => exact ih h
  | case3 lo hi _ mid hnone => exact nomatch h
  | case4 lo hi _ => exact Array.mem_of_getElem? h

theorem Ranges.exists_of_contains {r : Ranges} {n : Nat} (h : r.contains n = true) :
    ∃ interval ∈ r.intervals.toList, interval.1 ≤ n ∧ n ≤ interval.2 := by
  rcases Option.isSome_iff_exists.mp h with ⟨interval, hfind⟩
  rw [find?, Option.filter_eq_some_iff] at hfind
  rcases hfind with ⟨hsearch, hholds⟩
  rw [Bool.and_eq_true, decide_eq_true_eq, decide_eq_true_eq] at hholds
  exact ⟨interval, Array.mem_def.mp (exists_of_search hsearch), hholds⟩

namespace LooseUrl

variable {t : Text} {u v : LooseUrl} {p : CodePoint} {port : Option Nat}

/-- Points that do not look like a mark that parts an address. -/
def IsHonest (t : Text) : Prop := ∀ p ∈ t, deceptive.contains p.toNat = false

/-- No run of the table of lower-case forms ends among the points that look like marks. -/
theorem apart_of_mem : ∀ run ∈ Case.lowerRuns.toList, ∀ interval ∈ deceptive.intervals.toList,
    run.2.1 + run.2.2.2 < interval.1 ∨ interval.2 < run.1 + run.2.2.2 := by decide +kernel

theorem contains_deceptive_shift {n : Nat} (h : deceptive.contains n = false) :
    deceptive.contains (Case.shift Case.lowerRuns n) = false := by
  rw [← Bool.not_eq_true]
  intro hdeceptive
  rcases Ranges.exists_of_contains hdeceptive with ⟨interval, hinterval, hbounds⟩
  unfold Case.shift at hbounds hdeceptive
  split at hbounds
  · rename_i first last step amount hfind
    have hmem := Array.mem_def.mp (Array.mem_of_find?_eq_some hfind)
    have hapart := apart_of_mem _ hmem _ hinterval
    have hpositive := Case.lt_of_lowerRuns _ hmem
    have hholds := Array.find?_some hfind
    simp only [Bool.and_eq_true, decide_eq_true_eq] at hholds hapart hpositive
    omega
  · rename_i hnone
    rw [hnone] at hdeceptive
    rw [h] at hdeceptive
    exact nomatch hdeceptive

theorem IsHonest.lower (h : IsHonest t) : IsHonest t.lower :=
  Text.forall_mem_lower not_deceptive_of_ascii (fun _ => contains_deceptive_shift) (by decide +kernel) h

theorem isHonest_of_isAscii (h : t.isAscii = true) : IsHonest t := fun p hp =>
  not_deceptive_of_ascii _ (of_decide_eq_true (List.all_eq_true.mp h p hp))

theorem IsHonest.append {s : Text} (hs : IsHonest s) (ht : IsHonest t) : IsHonest (s ++ t) :=
  List.forall_mem_append.mpr ⟨hs, ht⟩

/-! ## Brackets -/

/-- Brackets stand around what may be between them, or there are none. -/
structure BracketsFit (netloc : Text) : Prop where
  paired : CodePoint.char '[' ∈ netloc ↔ CodePoint.char ']' ∈ netloc
  inner : CodePoint.char '[' ∈ netloc →
    checkBrackets (Text.cut (.char ']') ((netloc.cut (.char '[')).2.getD [])).1 = none

theorem checkNetloc_eq_none_iff (netloc : Text) :
    checkNetloc netloc = none ↔ BracketsFit netloc ∧ IsHonest netloc := by
  have hhonest : (if (netloc.any fun p => deceptive.contains p.toNat) = true
      then some (Problem.deceptive netloc) else none) = none ↔ IsHonest netloc := by
    rw [ite_eq_right_iff]
    simp [IsHonest]
  have hdiffer : (netloc.contains (.char '[') != netloc.contains (.char ']')) = true ↔
      ¬ (CodePoint.char '[' ∈ netloc ↔ CodePoint.char ']' ∈ netloc) := by
    rw [bne_iff_ne, ne_eq, Bool.eq_iff_iff, List.contains_iff_mem, List.contains_iff_mem]
  unfold checkNetloc
  dsimp only
  by_cases hpaired : CodePoint.char '[' ∈ netloc ↔ CodePoint.char ']' ∈ netloc
  · rw [if_neg fun h => hdiffer.mp h hpaired, Option.or_eq_none_iff, hhonest]
    refine and_congr_left fun _ => ?_
    by_cases hopening : CodePoint.char '[' ∈ netloc
    · rw [if_pos (List.contains_iff_mem.mpr hopening)]
      exact ⟨fun h => ⟨hpaired, fun _ => h⟩, fun h => h.inner hopening⟩
    · rw [if_neg (mt List.contains_iff_mem.mp hopening)]
      exact ⟨fun _ => ⟨hpaired, fun h => absurd h hopening⟩, fun _ => rfl⟩
  · rw [if_pos (hdiffer.mpr hpaired)]
    exact ⟨nofun, fun h => absurd h.1.paired hpaired⟩

/-! ## Hosts and ports -/

theorem fst_append_snd_cut (sep : CodePoint) (t : Text) :
    (t.cut sep).1 ++ (match (t.cut sep).2 with
      | some after => sep :: after
      | none => []) = t := by
  cases hcut : t.cut sep with
  | mk before after =>
    cases after with
    | none =>
      rw [(Text.cut_eq_none hcut).1]
      exact List.append_nil t
    | some after => exact (Text.cut_eq_some hcut).1.symm

/-- A host and its zone. -/
def shownHost (host : Text) : Text :=
  (host.cut (.char '%')).1.lower ++ match (host.cut (.char '%')).2 with
    | some zone => .char '%' :: zone
    | none => []

theorem hostName?_eq_shownHost (u : LooseUrl) :
    u.hostName? = if u.hostAndPort.1.isEmpty then none else some (shownHost u.hostAndPort.1) := rfl

/-- What is shown for a host is shown for itself. -/
theorem shownHost_shownHost (host : Text) : shownHost (shownHost host) = shownHost host := by
  have hpercent : CodePoint.char '%' ∉ (host.cut (.char '%')).1.lower := by
    intro hmem
    rcases Text.mem_or_lt_of_mem_lower hmem with hmem | hlt
    · exact not_mem_fst_cut _ _ hmem
    · exact absurd hlt (by decide)
  have hcut : (shownHost host).cut (.char '%') =
      ((host.cut (.char '%')).1.lower, (host.cut (.char '%')).2) := by
    unfold shownHost
    cases (host.cut (.char '%')).2 with
    | none =>
      rw [Text.cut_append_of_not_mem hpercent]
      exact Prod.ext (List.append_nil _) rfl
    | some zone => exact Text.cut_append hpercent zone
  rw [shownHost, hcut, Text.lower_lower]
  rfl

theorem shownHost_ne_nil {host : Text} (h : host ≠ []) : shownHost host ≠ [] := by
  have hsplit := fst_append_snd_cut (.char '%') host
  intro hnil
  rw [shownHost, List.append_eq_nil_iff] at hnil
  apply h
  rw [← hsplit, hnil.2, List.append_nil]
  exact Decidable.byContradiction fun hne => Text.lower_ne_nil hne hnil.1

theorem count_shownHost_le (hp : p.toNat ≤ 0x60) (host : Text) : (shownHost host).count p ≤ host.count p := by
  conv => rhs; rw [← fst_append_snd_cut (.char '%') host]
  rw [shownHost, List.count_append, List.count_append]
  exact Nat.add_le_add_right (Text.count_lower_le hp _) _

theorem not_mem_shownHost (hp : p.toNat ≤ 0x60) {host : Text} (h : p ∉ host) : p ∉ shownHost host := by
  have hcount := count_shownHost_le hp host
  rw [List.count_eq_zero_of_not_mem h] at hcount
  exact List.count_eq_zero.mp (Nat.le_zero.mp hcount)

theorem IsHonest.shownHost {host : Text} (h : IsHonest host) : IsHonest (shownHost host) := by
  rw [← fst_append_snd_cut (.char '%') host] at h
  rcases List.forall_mem_append.mp h with ⟨hname, hzone⟩
  exact IsHonest.append (IsHonest.lower hname) hzone

theorem lt_of_port? {n : Nat} (h : u.port? = .ok (some n)) : n < 65536 := by
  unfold port? at h
  dsimp only at h
  split at h
  · exact nomatch h
  · split at h
    · split at h
      · rename_i hlt
        rwa [← Option.some.inj (Except.ok.inj h)]
      · exact nomatch h
    · exact nomatch h

/-- A port is read as it is shown, but for a port of zero, which is not shown. -/
theorem port?_of_shownPort (h : u.hostAndPort.2 = (Url.shownPort port).drop 1)
    (hlt : ∀ n ∈ port, n < 65536) : u.port? = .ok (port.filter (· ≠ 0)) := by
  unfold port?
  rw [h]
  cases port with
  | none => rfl
  | some n =>
    cases n with
    | zero => rfl
    | succ n =>
      have hshown : (Url.shownPort (some (n + 1))).drop 1 = Text.ofNat (n + 1) := rfl
      have hempty : ¬ (Text.ofNat (n + 1)).isEmpty = true := by
        rw [List.isEmpty_iff, Text.ofNat, Text.ofChars, List.map_eq_nil_iff]
        exact Nat.toDigits_ne_nil
      have hdigits : (Text.ofNat (n + 1)).all CodePoint.isDigit = true :=
        List.all_eq_true.mpr fun p hp => Text.isDigit_of_mem_ofNat hp
      have hvalue : (Text.ofNat (n + 1)).foldl (fun n p => 10 * n + (p.toNat - 0x30)) 0 = n + 1 := by
        rw [Text.ofNat, Text.ofChars, List.foldl_map]
        exact Numeral.value_toDigits (n + 1)
      have hlt : n + 1 < 65536 := hlt _ rfl
      -- a port has five digits at most, which is far from too many
      have hlength : (Text.ofNat (n + 1)).length ≤ Numeral.maxDigits := by
        rw [Text.ofNat, Text.ofChars, List.length_map]
        have hfive : (Nat.toDigits 10 (n + 1)).length ≤ 5 :=
          (Nat.length_toDigits_le_iff (by decide) (by decide)).mpr (by omega)
        exact Nat.le_trans hfive (by decide)
      dsimp only
      rw [hshown, if_neg hempty, hdigits, Bool.true_and, if_pos (decide_eq_true hlength), hvalue,
        if_pos hlt]
      rfl

theorem shownPort_cases (port : Option Nat) :
    Url.shownPort port = [] ∨ ∃ n, Url.shownPort port = .char ':' :: Text.ofNat n := by
  unfold Url.shownPort
  split
  · exact .inr ⟨_, rfl⟩
  · exact .inl rfl

theorem of_mem_shownPort (h : p ∈ Url.shownPort port) : p = .char ':' ∨ p.isDigit = true := by
  rcases shownPort_cases port with hnone | ⟨n, hsome⟩
  · rw [hnone] at h
    exact nomatch h
  · rw [hsome] at h
    exact (List.mem_cons.mp h).imp_right Text.isDigit_of_mem_ofNat

theorem not_mem_shownPort (hcolon : p ≠ .char ':') (hdigit : p.isDigit = false) : p ∉ Url.shownPort port := by
  intro hmem
  rcases of_mem_shownPort hmem with hsame | hmem
  · exact hcolon hsame
  · exact absurd (hdigit.symm.trans hmem) Bool.false_ne_true

/-- A host without marks is cut off from the port that is shown behind it. -/
theorem hostAndPort_of_shownPort {before host : Text}
    (h : u.netloc = before ++ .char '@' :: (host ++ Url.shownPort port))
    (hsign : CodePoint.char '@' ∉ host) (hcolon : CodePoint.char ':' ∉ host)
    (hbracket : CodePoint.char '[' ∉ host) :
    u.hostAndPort = (host, (Url.shownPort port).drop 1) := by
  have hnot : ∀ q, q ∉ host → q ≠ .char ':' → q.isDigit = false → q ∉ host ++ Url.shownPort port := by
    intro q hq hne hdigit
    rw [List.mem_append]
    exact not_or_intro hq (not_mem_shownPort hne hdigit)
  have hbrackets : Text.cut (.char '[') (host ++ Url.shownPort port) = (host ++ Url.shownPort port, none) :=
    Text.cut_of_not_mem (hnot _ hbracket (by decide) (by decide))
  unfold hostAndPort
  rw [h, Url.cutLast_append (hnot _ hsign (by decide) (by decide))]
  dsimp only
  rw [hbrackets]
  dsimp only
  rcases shownPort_cases port with hnone | ⟨n, hsome⟩
  · rw [hnone, List.append_nil, Text.cut_of_not_mem hcolon]
    rfl
  · rw [hsome, Text.cut_append hcolon]
    rfl

/-! ## Hosts that are read again -/

section

variable {before place name : Text}

theorem exists_shownHost (h : u.hostName? = some name) :
    u.hostAndPort.1 ≠ [] ∧ name = shownHost u.hostAndPort.1 := by
  rw [hostName?_eq_shownHost] at h
  split at h
  · exact nomatch h
  · rename_i hne
    rw [List.isEmpty_iff] at hne
    exact ⟨hne, (Option.some.inj h).symm⟩

/-- A name without marks is the name of the host that is written with it. -/
theorem hostName?_of_shownPort (hnetloc : v.netloc = before ++ .char '@' :: (name ++ Url.shownPort port))
    (h : u.hostName? = some name) (hsign : CodePoint.char '@' ∉ name) (hcolon : CodePoint.char ':' ∉ name)
    (hbracket : CodePoint.char '[' ∉ name) : v.hostName? = some name := by
  rcases exists_shownHost h with ⟨hne, rfl⟩
  have hname : ¬ (shownHost u.hostAndPort.1).isEmpty = true := by
    rw [List.isEmpty_iff]
    exact shownHost_ne_nil hne
  rw [hostName?_eq_shownHost, hostAndPort_of_shownPort hnetloc hsign hcolon hbracket, if_neg hname,
    shownHost_shownHost]

/-- A host that is read behind a bracket has fewer brackets than what it is read from. -/
theorem count_host_lt (hnetloc : v.netloc = before ++ .char '@' :: place)
    (hsign : CodePoint.char '@' ∉ place) (hbracket : CodePoint.char '[' ∈ place) :
    v.hostAndPort.1.count (.char '[') < place.count (.char '[') := by
  unfold hostAndPort
  rw [hnetloc, Url.cutLast_append hsign]
  dsimp only
  cases hcut : Text.cut (.char '[') place with
  | mk front inner =>
    cases inner with
    | none => exact absurd hbracket (Text.cut_eq_none hcut).2
    | some inner =>
      have hle := (prefix_of_cut (.char ']') inner).sublist.count_le (.char '[')
      rw [(Text.cut_eq_some hcut).1, List.count_append, List.count_cons_self]
      dsimp only
      omega

/-- A host that is read without brackets has no colon. -/
theorem colon_not_mem_host (hnetloc : v.netloc = before ++ .char '@' :: place)
    (hsign : CodePoint.char '@' ∉ place) (hbracket : CodePoint.char '[' ∉ place) :
    CodePoint.char ':' ∉ v.hostAndPort.1 := by
  unfold hostAndPort
  rw [hnetloc, Url.cutLast_append hsign]
  dsimp only
  cases hcut : Text.cut (.char '[') place with
  | mk front inner =>
    cases inner with
    | none => exact not_mem_fst_cut _ _
    | some inner =>
      rw [(Text.cut_eq_some hcut).1] at hbracket
      exact absurd (List.mem_append_right _ List.mem_cons_self) hbracket

end

end LooseUrl

end ImageDiscovery
