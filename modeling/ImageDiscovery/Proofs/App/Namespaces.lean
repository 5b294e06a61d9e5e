import ImageDiscovery.App
import ImageDiscovery.Proofs.Text.Split
import Mathlib.Data.List.Induction

/-!
# Namespaces — the prefixes of an app's name, from the most specific on

The namespaces of an app are the joins of fewer and fewer parts of its name, so the first is the name
itself and each one, with a slash behind it, starts all that come before it.
-/

namespace ImageDiscovery

namespace App

/-! ## The order of the namespaces -/

theorem head?_namespacesOf {parts : List Text} (h : parts ≠ []) :
    (namespacesOf parts).head? = some (Text.join "/" parts) := by
  have hpos : parts.length ≠ 0 := fun e => h (List.length_eq_zero_iff.mp e)
  rw [namespacesOf, List.head?_map, List.head?_range, if_neg hpos, Option.map_some, Nat.sub_zero,
    List.take_length]

/-- What is joined from fewer parts, with a slash behind it, starts what is joined from more. -/
theorem join_take_isPrefix {parts : List Text} {few many : Nat} (hpos : 0 < few) (h : few < many)
    (hle : many ≤ parts.length) :
    Text.join "/" (parts.take few) ++ [.char '/'] <+: Text.join "/" (parts.take many) := by
  have hsplit : parts.take many = parts.take few ++ (parts.take many).drop few := by
    rw [← List.take_append_drop few (parts.take many), List.take_take, Nat.min_eq_left (by omega),
      List.drop_left' (by rw [List.length_take]; omega)]
  have hfew : parts.take few ≠ [] := by
    apply List.ne_nil_of_length_pos
    rw [List.length_take]
    omega
  have hrest : (parts.take many).drop few ≠ [] := by
    apply List.ne_nil_of_length_pos
    rw [List.length_drop, List.length_take]
    omega
  rw [hsplit, Text.join_append _ hfew hrest]
  exact ⟨_, rfl⟩

theorem pairwise_namespacesOf (parts : List Text) :
    (namespacesOf parts).Pairwise fun long short => short ++ [.char '/'] <+: long := by
  rw [namespacesOf, List.pairwise_map]
  apply List.pairwise_lt_range.imp_of_mem
  intro i j hi hj hlt
  rw [List.mem_range] at hi hj
  -- `j` parts are dropped and at least one is left, since `j` is in the range
  exact join_take_isPrefix (by omega) (by omega) (by omega)

theorem head?_namespaces (app : App) : app.namespaces.head? = some app.name := by
  rw [namespaces, head?_namespacesOf (Text.split_ne_nil _ _)]
  exact congrArg some (Text.join_split _ _)

theorem pairwise_namespaces (app : App) :
    app.namespaces.Pairwise fun long short => short ++ [.char '/'] <+: long :=
  pairwise_namespacesOf _

/-- Each namespace is shorter than those before it. -/
theorem pairwise_length_namespaces (app : App) :
    app.namespaces.Pairwise fun long short => short.length < long.length := by
  apply app.pairwise_namespaces.imp
  intro long short h
  have hle := h.length_le
  rw [List.length_append, List.length_singleton] at hle
  omega

theorem eq_or_isPrefix_of_mem_namespaces {app : App} {place : Text} (h : place ∈ app.namespaces) :
    place = app.name ∨ place ++ [.char '/'] <+: app.name := by
  have hhead := app.head?_namespaces
  have hpairs := app.pairwise_namespaces
  cases hplaces : app.namespaces with
  | nil =>
    rw [hplaces] at h
    exact nomatch h
  | cons name rest =>
    rw [hplaces] at h hhead hpairs
    rw [← Option.some.inj hhead]
    exact (List.mem_cons.mp h).imp_right ((List.pairwise_cons.mp hpairs).1 place)

theorem isPrefix_of_mem_namespaces {app : App} {place : Text} (h : place ∈ app.namespaces) :
    place <+: app.name := by
  rcases eq_or_isPrefix_of_mem_namespaces h with rfl | h
  · exact List.prefix_rfl
  · exact (List.prefix_append _ _).trans h

theorem nodup_namespaces (app : App) : app.namespaces.Nodup := by
  apply app.pairwise_length_namespaces.imp
  intro long short h heq
  rw [heq] at h
  exact Nat.lt_irrefl _ h

/-! ## One part after another -/

/-- One part more gives one join more, in front of the others. -/
theorem namespacesOf_concat (parts : List Text) (part : Text) :
    namespacesOf (parts ++ [part]) = Text.join "/" (parts ++ [part]) :: namespacesOf parts := by
  have hlength : (parts ++ [part]).length = parts.length + 1 := by simp
  rw [namespacesOf, hlength, List.range_succ_eq_map, List.map_cons, List.map_map, namespacesOf]
  congr 1
  · rw [Nat.sub_zero, ← hlength, List.take_length]
  · -- the joins behind the first leave the new part out
    apply List.map_congr_left
    intro dropped _
    show Text.join "/" ((parts ++ [part]).take (parts.length + 1 - (dropped + 1))) = _
    rw [Nat.add_sub_add_right, List.take_append_of_le_length (Nat.sub_le _ _)]

/-- Without the first few joins, those of fewer parts are left. -/
theorem drop_namespacesOf (parts : List Text) (i : Nat) :
    (namespacesOf parts).drop i = namespacesOf (parts.take (parts.length - i)) := by
  induction parts using List.reverseRecOn generalizing i with
  | nil => simp [namespacesOf]
  | append_singleton parts part ih =>
    cases i with
    | zero => rw [List.drop_zero, Nat.sub_zero, List.take_length]
    | succ i =>
      have hlength : (parts ++ [part]).length - (i + 1) = parts.length - i := by simp
      rw [namespacesOf_concat, List.drop_succ_cons, ih, hlength,
        List.take_append_of_le_length (Nat.sub_le _ _)]

theorem getLast?_namespacesOf (parts : List Text) : (namespacesOf parts).getLast? = parts.head? := by
  induction parts using List.reverseRecOn with
  | nil => rfl
  | append_singleton parts part ih =>
    rw [namespacesOf_concat, List.getLast?_cons, ih, List.head?_append]
    cases parts <;> rfl

theorem join_mem_namespacesOf {front rest : List Text} (h : front ≠ []) :
    Text.join "/" front ∈ namespacesOf (front ++ rest) := by
  have hdrop : (namespacesOf (front ++ rest)).drop rest.length = namespacesOf front := by
    rw [drop_namespacesOf, List.length_append, Nat.add_sub_cancel, List.take_left]
  have hmem : Text.join "/" front ∈ namespacesOf front := List.mem_of_head? (head?_namespacesOf h)
  rw [← hdrop] at hmem
  exact List.mem_of_mem_drop hmem

/-- A namespace has the parts of the name, but for those at the end. -/
theorem split_of_getElem?_namespaces {app : App} {place : Text} {i : Nat}
    (h : app.namespaces[i]? = some place) :
    place.split (.char '/') =
      (app.name.split (.char '/')).take ((app.name.split (.char '/')).length - i) := by
  have hhead : (app.namespaces.drop i).head? = some place := by rw [List.head?_drop, h]
  rw [namespaces, drop_namespacesOf] at hhead
  generalize hkept : (app.name.split (.char '/')).take _ = kept at hhead ⊢
  have hne : kept ≠ [] := by
    intro hnil
    rw [hnil] at hhead
    exact nomatch hhead
  have hfree : ∀ part ∈ kept, CodePoint.char '/' ∉ part := by
    intro part hpart
    rw [← hkept] at hpart
    exact Text.not_mem_of_mem_split (List.mem_of_mem_take hpart)
  rw [head?_namespacesOf hne] at hhead
  rw [← Option.some.inj hhead]
  exact Text.split_join hne hfree

end App

end ImageDiscovery
