import ImageDiscovery.Proofs.Url.Scheme

/-!
# Cutting — where texts that were put together come apart again

A text that is cut at a mark comes apart where it was put together, as long as the mark is not in the
piece that is passed over.
-/

namespace ImageDiscovery

namespace Url

/-! ## Up to a mark -/

/-- What holds no mark is passed over. -/
theorem upTo_append_of_pass {ends : CodePoint → Bool} {before : Text}
    (h : ∀ p ∈ before, ends p = false) (after : Text) :
    upTo ends (before ++ after) = (before ++ (upTo ends after).1, (upTo ends after).2) := by
  have hpass : ∀ p ∈ before, (!ends p) = true := fun p hp => by rw [h p hp]; rfl
  unfold upTo
  rw [List.takeWhile_append_of_pos hpass, List.dropWhile_append_of_pos hpass]

theorem upTo_append {ends : CodePoint → Bool} {before after : Text}
    (hbefore : ∀ p ∈ before, ends p = false) (hafter : ∀ p ∈ after.head?, ends p = true) :
    upTo ends (before ++ after) = (before, after) := by
  have hstop : upTo ends after = ([], after) := by
    cases after with
    | nil => rfl
    | cons p rest =>
      have hp : ends p = true := hafter p rfl
      simp [upTo, hp]
  rw [upTo_append_of_pass hbefore, hstop, List.append_nil]

theorem upTo_eq_self {ends : CodePoint → Bool} {t : Text} (h : ∀ p ∈ t, ends p = false) :
    upTo ends t = (t, []) := by
  have hcut := upTo_append h (show ∀ p ∈ ([] : Text).head?, ends p = true from nofun)
  rw [List.append_nil] at hcut
  exact hcut

theorem of_mem_fst_upTo {ends : CodePoint → Bool} {t : Text} {p : CodePoint}
    (h : p ∈ (upTo ends t).1) : p ∈ t ∧ ends p = false := by
  have hends := List.all_eq_true.mp (List.all_takeWhile (l := t) (p := fun p => !ends p)) p h
  exact ⟨(List.takeWhile_sublist _).subset h, by simpa using hends⟩

theorem of_head?_snd_upTo {ends : CodePoint → Bool} {t : Text} :
    ∀ p ∈ (upTo ends t).2.head?, ends p = true := by
  intro p hp
  have hstop := List.head?_dropWhile_not (fun p => !ends p) t
  rw [show (t.dropWhile fun p => !ends p).head? = some p from hp] at hstop
  simpa using hstop

theorem fst_append_snd_upTo (ends : CodePoint → Bool) (t : Text) :
    (upTo ends t).1 ++ (upTo ends t).2 = t :=
  List.takeWhile_append_dropWhile

/-! ## Around the last mark -/

theorem cutLast_append {sep : CodePoint} {after : Text} (h : sep ∉ after) (before : Text) :
    cutLast sep (before ++ sep :: after) = (before, after) := by
  -- read backwards, the last mark is the first
  have hcut : Text.cut sep (before ++ sep :: after).reverse = (after.reverse, some before.reverse) := by
    rw [List.reverse_append, List.reverse_cons, List.append_assoc, List.singleton_append]
    exact Text.cut_append (by simpa using h) _
  rw [cutLast, hcut]
  simp

theorem cutLast_of_not_mem {sep : CodePoint} {t : Text} (h : sep ∉ t) : cutLast sep t = ([], t) := by
  cases hcut : Text.cut sep t.reverse with
  | mk after before =>
    cases before with
    | none => rw [cutLast, hcut]
    | some before =>
      have hmem : sep ∈ t.reverse := by
        rw [(Text.cut_eq_some hcut).1]
        simp
      exact absurd (List.mem_reverse.mp hmem) h

/-- The text is put together again from what it was cut into. -/
theorem eq_of_cutLast {sep : CodePoint} {t before after : Text}
    (h : cutLast sep t = (before, after)) :
    sep ∉ after ∧ (t = after ∧ before = [] ∨ t = before ++ sep :: after) := by
  cases hcut : Text.cut sep t.reverse with
  | mk back front =>
    rw [cutLast, hcut] at h
    cases front with
    | none =>
      cases h
      have hnot := (Text.cut_eq_none hcut).2
      exact ⟨by simpa using hnot, .inl ⟨rfl, rfl⟩⟩
    | some front =>
      cases h
      rcases Text.cut_eq_some hcut with ⟨hsplit, hnot⟩
      refine ⟨by simpa using hnot, .inr ?_⟩
      rw [← t.reverse_reverse, hsplit]
      simp

theorem of_mem_snd_cutLast {sep : CodePoint} {t : Text} {p : CodePoint}
    (h : p ∈ (cutLast sep t).2) : p ∈ t ∧ p ≠ sep := by
  rcases eq_of_cutLast (show cutLast sep t = ((cutLast sep t).1, (cutLast sep t).2) from rfl) with
    ⟨hnot, hsplit⟩
  have hne : p ≠ sep := fun e => hnot (e ▸ h)
  refine ⟨?_, hne⟩
  rcases hsplit with ⟨heq, -⟩ | heq
  · rw [heq]
    exact h
  · rw [heq]
    simp [h]

theorem of_mem_fst_cutLast {sep : CodePoint} {t : Text} {p : CodePoint}
    (h : p ∈ (cutLast sep t).1) : p ∈ t := by
  rcases eq_of_cutLast (show cutLast sep t = ((cutLast sep t).1, (cutLast sep t).2) from rfl) with
    ⟨-, ⟨-, hnil⟩ | heq⟩
  · rw [hnil] at h
    exact nomatch h
  · rw [heq]
    simp [h]

/-! ## Authorities -/

/-- Where the host of an authority comes from: nothing before the last `@` is in it. -/
theorem of_mem_host_ofText {t : Text} {p : CodePoint} (h : p ∈ (Authority.ofText t).host) :
    p ≠ .char '@' ∧ (p ∈ t ∨ p = .char ']') := by
  have hrest : ∀ q ∈ (cutLast (.char '@') t).2, q ≠ .char '@' ∧ q ∈ t := fun q hq =>
    (of_mem_snd_cutLast hq).symm
  unfold Authority.ofText at h
  dsimp only at h
  split at h
  · rw [List.mem_append, List.mem_singleton] at h
    rcases h with h | rfl
    · have hq := hrest p (of_mem_fst_cutLast h)
      exact ⟨hq.1, .inl hq.2⟩
    · exact ⟨by decide, .inr rfl⟩
  · have hq := hrest p (of_mem_fst_upTo h).1
    exact ⟨hq.1, .inl hq.2⟩

end Url

end ImageDiscovery
