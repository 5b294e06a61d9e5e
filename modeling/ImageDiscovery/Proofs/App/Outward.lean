import ImageDiscovery.Proofs.App.Namespaces
import ImageDiscovery.Proofs.Identifier.Runs

/-!
# Outward — from the name of an app to its first part

A name may be cut at each of its slashes, and what is in front of the slash is a name again.  So the
namespaces of an app are its name and all that stands in front of a slash in it, each of them is the name
of an app, and the namespaces of that app are those from there on.
-/

namespace ImageDiscovery

namespace App

/-! ## All that stands in front of a slash -/

theorem mem_namespaces_of_isPrefix {app : App} {place : Text}
    (h : place ++ [.char '/'] <+: app.name) : place ∈ app.namespaces := by
  have ⟨rest, hname⟩ := h
  rw [List.append_assoc, List.singleton_append] at hname
  -- the parts in front of the slash are the first of the parts of the name
  have hmem : Text.join "/" (place.split (.char '/')) ∈
      namespacesOf (place.split (.char '/') ++ Text.split (.char '/') rest) :=
    join_mem_namespacesOf (Text.split_ne_nil (.char '/') place)
  rw [← Text.split_append_cons, hname] at hmem
  have hplace : Text.join "/" (place.split (.char '/')) = place := Text.join_split _ _
  rw [hplace] at hmem
  exact hmem

theorem mem_namespaces_iff {app : App} {place : Text} :
    place ∈ app.namespaces ↔ place = app.name ∨ place ++ [.char '/'] <+: app.name := by
  constructor
  · exact eq_or_isPrefix_of_mem_namespaces
  · intro h
    cases h with
    | inl hname =>
      rw [hname]
      exact List.mem_of_head? app.head?_namespaces
    | inr hprefix => exact mem_namespaces_of_isPrefix hprefix

/-! ## Names again -/

/-- What stands in front of a slash in a name is a name. -/
theorem checkIdentifier_of_mem_namespaces {app : App} {place : Text} (h : place ∈ app.namespaces) :
    checkIdentifier place = none := by
  cases eq_or_isPrefix_of_mem_namespaces h with
  | inl hname =>
    rw [hname]
    exact app.name_ok
  | inr hprefix =>
    have ⟨rest, hname⟩ := hprefix
    have haccepts := isIdentifier_of_checkIdentifier app.name_ok
    rw [← hname, List.append_assoc] at haccepts
    exact if_pos (Identifier.accepts_before_separator (by decide) (by decide) haccepts)

/-- The app of a namespace has the namespaces from that one on. -/
theorem exists_make?_of_getElem?_namespaces {app : App} {place : Text} {i : Nat}
    (h : app.namespaces[i]? = some place) :
    ∃ outer, make? place {} = .ok outer ∧ outer.namespaces = app.namespaces.drop i := by
  have hcheck := checkIdentifier_of_mem_namespaces (List.mem_of_getElem? h)
  have hlabels : checkLabels {} = none := rfl
  have ⟨outer, houter⟩ := exists_make?_iff.mpr ⟨hcheck, hlabels⟩
  have hname := (name_of_make? houter).1
  refine ⟨outer, houter, ?_⟩
  rw [namespaces, hname, split_of_getElem?_namespaces h, namespaces, drop_namespacesOf]

/-- How the namespaces of an app lead from its name outward. -/
structure LeadsOutward (app : App) : Prop where
  mem_iff : ∀ place, place ∈ app.namespaces ↔ place = app.name ∨ place ++ [.char '/'] <+: app.name
  shrinks : app.namespaces.Pairwise fun long short => short.length < long.length
  head? : app.namespaces.head? = some app.name
  /-- The last one is what stands in front of the first slash. -/
  getLast? : app.namespaces.getLast? = some (app.name.takeWhile (· ≠ .char '/'))
  identifier : ∀ place ∈ app.namespaces, checkIdentifier place = none
  /-- Each one leads outward as it does here. -/
  outer : ∀ i place, app.namespaces[i]? = some place →
    ∃ outer, make? place {} = .ok outer ∧ outer.namespaces = app.namespaces.drop i

/-- **Namespaces.**  The namespaces of an app are its name and whatever stands in front of a slash in it,
    the longest first, from the name to its first part.  Each is a valid name, and its own namespaces are
    the rest of the list. -/
theorem leadsOutward (app : App) : LeadsOutward app where
  mem_iff _ := mem_namespaces_iff
  shrinks := app.pairwise_length_namespaces
  head? := app.head?_namespaces
  getLast? := (getLast?_namespacesOf _).trans (Text.head?_split _ _)
  identifier _ := checkIdentifier_of_mem_namespaces
  outer _ _ := exists_make?_of_getElem?_namespaces

example : (⟨"example.com/a/b", {}, by decide, by decide⟩ : App).namespaces =
    (["example.com/a/b", "example.com/a", "example.com"] : List Text) := by decide

end App

end ImageDiscovery
