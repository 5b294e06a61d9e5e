import ImageDiscovery.Html.Reader
import Mathlib.Data.Bool.AllAny

/-!
# Reading — what the reader makes of a tag that is written out

A tag with two quoted attributes is found with exactly their values, wherever in the head of a page it
stands and whatever was found before.  A value that is quoted may hold any character but its quote.
-/

namespace ImageDiscovery

namespace Html

/-! ## Characters that are read as they are -/

theorem normalized_eq_self {cs : List Char} (hnull : '\x00' ∉ cs) (hreturn : '\r' ∉ cs) :
    normalized cs = cs := by
  induction cs with
  | nil => rfl
  | cons c cs ih =>
    rw [List.mem_cons, not_or] at hnull hreturn
    have hrest : normalized cs = cs := ih hnull.2 hreturn.2
    rw [normalized, hrest]
    · exact fun _ h => absurd h.symm hreturn.1
    · exact fun h => absurd h.symm hreturn.1
    · exact fun h => absurd h.symm hnull.1

namespace Reader

variable {r : Reader}

/-! ## Steps within a tag -/

variable (hreads : r.nesting.halted = false)

include hreads

theorem step_of_more {d d' : Draft} {place place' : TagPlace} {c : Char}
    (h : d.step c place = .more d' place') :
    (r.goto (.tag d place)).step c = r.goto (.tag d' place') := by
  show (if r.nesting.halted then _ else (r.goto _).tagStep d place c) = _
  rw [hreads, tagStep, h]
  rfl

theorem step_of_complete {d : Draft} {place : TagPlace} {c : Char} {t : Tag}
    (h : d.step c place = .complete t) : (r.goto (.tag d place)).step c = r.take t := by
  show (if r.nesting.halted then _ else (r.goto _).tagStep d place c) = _
  rw [hreads, tagStep, h]
  rfl

/-- Characters that the name of an attribute takes as they are. -/
def IsKeyChar (c : Char) : Prop :=
  isBlank c = false ∧ c ≠ '/' ∧ c ≠ '>' ∧ c ≠ '=' ∧ c.toLower = c

instance (c : Char) : Decidable (IsKeyChar c) := inferInstanceAs (Decidable (_ ∧ _))

theorem run_key (d : Draft) {cs : List Char} (h : ∀ c ∈ cs, IsKeyChar c) :
    (r.goto (.tag d .key)).run cs = r.goto (.tag { d with key := cs.reverse ++ d.key } .key) := by
  induction cs generalizing d with
  | nil => rfl
  | cons c cs ih =>
    rw [List.forall_mem_cons] at h
    obtain ⟨hblank, hslash, hend, hequals, hlower⟩ := h.1
    have hmore : d.step c .key = .more { d with key := c :: d.key } .key := by
      rw [Draft.step, hblank, if_neg Bool.false_ne_true, if_neg hslash, if_neg hend, if_neg hequals,
        hlower]
    show ((r.goto _).step c).run cs = _
    rw [step_of_more hreads hmore, ih _ h.2, List.reverse_cons, List.append_assoc,
      List.singleton_append]

/-- Up to its quote, a value takes every character as it is. -/
theorem run_quoted (d : Draft) {quote : Char} {cs : List Char} (h : quote ∉ cs) :
    (r.goto (.tag d (.quoted quote))).run cs =
      r.goto (.tag { d with value := cs.reverse ++ d.value } (.quoted quote)) := by
  induction cs generalizing d with
  | nil => rfl
  | cons c cs ih =>
    rw [List.mem_cons, not_or] at h
    have hmore : d.step c (.quoted quote) = .more { d with value := c :: d.value } (.quoted quote) :=
      if_neg (Ne.symm h.1)
    show ((r.goto _).step c).run cs = _
    rw [step_of_more hreads hmore, ih _ h.2, List.reverse_cons, List.append_assoc,
      List.singleton_append]

/-- A new attribute in double quotes is read as it is written. -/
theorem run_attribute {d : Draft} {key value : List Char} (hclean : d.key = [] ∧ d.value = [])
    (hne : key ≠ []) (hkey : ∀ c ∈ key, IsKeyChar c) (hnew : ∀ other ∈ d.attributes, other.1 ≠ key)
    (hvalue : '"' ∉ value) :
    (r.goto (.tag d .space)).run (key ++ "=\"".toList ++ value ++ "\"".toList) =
      r.goto (.tag { d with attributes := (key, value) :: d.attributes } .space) := by
  obtain ⟨closing, name, attributes, _, _⟩ := d
  obtain ⟨rfl, rfl⟩ := hclean
  obtain ⟨c, cs, rfl⟩ := List.exists_cons_of_ne_nil hne
  rw [List.forall_mem_cons] at hkey
  obtain ⟨hblank, hslash, hend, -, hlower⟩ := hkey.1
  have hbegin : ({ closing, name, attributes } : Draft).step c .space =
      .more { closing, name, attributes, key := [c] } .key := by
    show Draft.spaceStep _ c = _
    rw [Draft.spaceStep, hblank, if_neg Bool.false_ne_true, if_neg hslash, if_neg hend,
      Draft.beginAttribute, hlower]
    rfl
  have hequals : ∀ d : Draft, (r.goto (.tag d .key)).run "=\"".toList =
      r.goto (.tag d (.quoted '"')) := by
    intro d
    have hsign : d.step '=' .key = .more d .equals := rfl
    have hquote : d.step '"' .equals = .more d (.quoted '"') := rfl
    show ((r.goto _).step '=').step '"' = _
    rw [step_of_more hreads hsign, step_of_more hreads hquote]
  -- the attribute is complete at the second quote
  have hfresh : attributes.any (fun other => other.1 = c :: cs) = false := by
    rw [List.any_eq_false]
    intro other hother
    simp [hnew other hother]
  have hends : ({ closing, name, attributes, key := (c :: cs).reverse, value := value.reverse } :
      Draft).step '"' (.quoted '"') =
      .more { closing, name, attributes := (c :: cs, value) :: attributes } .space := by
    show TagStep.more (Draft.endAttribute _) .space = _
    simp only [Draft.endAttribute, List.reverse_reverse, hfresh, List.isEmpty_reverse,
      List.isEmpty_cons, Bool.or_false, Bool.false_eq_true, if_false]
  rw [run_append, run_append, run_append]
  show ((((((r.goto _).step c).run cs).run _).run value).step '"') = _
  rw [step_of_more hreads hbegin, run_key hreads _ hkey.2, hequals, run_quoted hreads _ hvalue,
    ← List.reverse_cons, List.append_nil]
  exact step_of_more hreads hends

omit hreads

/-! ## Tags that are complete -/

theorem take_opening {name : String} {attributes : List (List Char × List Char)}
    {nesting : Nesting} (hcontent : contentOf name = .text)
    (henter : r.nesting.enter name false = (nesting, true)) :
    r.take ⟨false, name.toList, attributes, false⟩ =
      { nesting
        found := if name == wanted then ⟨false, name.toList, attributes, false⟩ :: r.found
          else r.found } := by
  simp only [take, String.ofList_toList, henter, hcontent]
  rfl

theorem take_closing (name : String) (attributes : List (List Char × List Char)) :
    r.take ⟨true, name.toList, attributes, false⟩ =
      { r with state := .text, nesting := r.nesting.leave name } := by
  simp only [take, String.ofList_toList]
  rfl

/-- Behind an angle bracket and letters. -/
def inName (r : Reader) (closing : Bool) (name : String) : Reader :=
  r.goto (.tag { closing, name := name.toList.reverse } .name)

theorem run_inName (hreads : r.nesting.halted = false) (closing : Bool) (name : String) :
    (r.inName closing name).run ">".toList = r.take ⟨closing, name.toList, [], false⟩ := by
  have hcomplete : ({ closing, name := name.toList.reverse } : Draft).step '>' .name =
      .complete ⟨closing, name.toList.reverse.reverse, [], false⟩ := by
    rfl
  rw [List.reverse_reverse] at hcomplete
  exact step_of_complete hreads hcomplete

end Reader

/-! ## The head of a page -/

def inHtml : Nesting := { opened := ["html"] }

def inHead : Nesting := { opened := ["head", "html"], sawHead := true }

theorem enter_html : ({} : Nesting).enter "html" false = (inHtml, true) := by
  rfl

theorem enter_head : inHtml.enter "head" false = (inHead, true) := by
  rfl

/-- Meta elements stay where they are and leave nothing open. -/
theorem enter_meta : inHead.enter "meta" false = (inHead, true) := by
  rfl

/-- A meta element with a name and a content. -/
def metaTag (name content : List Char) : Tag :=
  ⟨false, "meta".toList, [("name".toList, name), ("content".toList, content)], false⟩

/-- The tag of a meta element up to some attributes, the last one first. -/
def metaDraft (attributes : List (List Char × List Char)) : Draft :=
  { closing := false, name := "meta".toList.reverse, attributes }

namespace Reader

/-- In the head of a page, outside of all tags. -/
def betweenTags (found : List Tag) : Reader := { nesting := inHead, found }

/-- Behind the head of a page. -/
def behindHead (found : List Tag) : Reader := { nesting := { inHtml with sawHead := true }, found }

theorem run_head :
    ({} : Reader).run "<!DOCTYPE html>\n<html>\n  <head>\n".toList = betweenTags [] := by
  have hparts : "<!DOCTYPE html>\n<html>\n  <head>\n".toList = "<!DOCTYPE html>\n<html".toList ++
      (">".toList ++ ("\n  <head".toList ++ (">".toList ++ "\n".toList))) := by
    rfl
  have hhtml : ({} : Reader).run "<!DOCTYPE html>\n<html".toList = inName {} false "html" := by
    rfl
  have hinHtml : ({} : Reader).take ⟨false, "html".toList, [], false⟩ = { nesting := inHtml } := by
    rw [take_opening rfl enter_html]
    rfl
  have hhead : ({ nesting := inHtml } : Reader).run "\n  <head".toList =
      inName { nesting := inHtml } false "head" := by
    rfl
  have hinHead : ({ nesting := inHtml } : Reader).take ⟨false, "head".toList, [], false⟩ =
      betweenTags [] := by
    rw [take_opening rfl enter_head]
    rfl
  rw [hparts, run_append, hhtml, run_append, run_inName rfl, hinHtml, run_append, hhead, run_append,
    run_inName rfl, hinHead]
  rfl

/-- **A tag is found as it is written.**  Its attributes have the characters that stand in quotes, and
    the reader is where it was. -/
theorem run_element (found : List Tag) {name content : List Char} (hname : '"' ∉ name)
    (hcontent : '"' ∉ content) :
    (betweenTags found).run ("    <meta name=\"".toList ++ name ++ "\" content=\"".toList ++ content ++
      "\">".toList) = betweenTags (metaTag name content :: found) := by
  have hreads : (betweenTags found).nesting.halted = false := rfl
  have hparts : "    <meta name=\"".toList ++ name ++ "\" content=\"".toList ++ content ++ "\">".toList =
      "    <meta ".toList ++ (("name".toList ++ "=\"".toList ++ name ++ "\"".toList) ++
        (" ".toList ++ (("content".toList ++ "=\"".toList ++ content ++ "\"".toList) ++
          ">".toList))) := by
    simp only [List.append_assoc]
    rfl
  have hopen : (betweenTags found).run "    <meta ".toList =
      (betweenTags found).goto (.tag (metaDraft []) .space) := by
    rfl
  have hnamed : ((betweenTags found).goto (.tag (metaDraft []) .space)).run
      ("name".toList ++ "=\"".toList ++ name ++ "\"".toList) =
      (betweenTags found).goto (.tag (metaDraft [("name".toList, name)]) .space) :=
    run_attribute hreads ⟨rfl, rfl⟩ (by decide) (List.all_iff_forall_prop.mp (by decide)) nofun hname
  have hblank : ∀ d : Draft, ((betweenTags found).goto (.tag d .space)).run " ".toList =
      (betweenTags found).goto (.tag d .space) := fun d => rfl
  have hnew : ∀ other ∈ [("name".toList, name)], other.1 ≠ "content".toList := by
    simp
  have hdescribed : ((betweenTags found).goto (.tag (metaDraft [("name".toList, name)]) .space)).run
      ("content".toList ++ "=\"".toList ++ content ++ "\"".toList) = (betweenTags found).goto
        (.tag (metaDraft [("content".toList, content), ("name".toList, name)]) .space) :=
    run_attribute hreads ⟨rfl, rfl⟩ (by decide) (List.all_iff_forall_prop.mp (by decide)) hnew
      hcontent
  have hcomplete : (metaDraft [("content".toList, content), ("name".toList, name)]).step '>' .space =
      .complete (metaTag name content) := by
    rfl
  have hend : ∀ d t, d.step '>' .space = .complete t →
      ((betweenTags found).goto (.tag d .space)).run ">".toList = (betweenTags found).take t :=
    fun _ _ => step_of_complete hreads
  have htake : (betweenTags found).take (metaTag name content) =
      betweenTags (metaTag name content :: found) := by
    rw [metaTag, take_opening rfl enter_meta]
    rfl
  rw [hparts, run_append, hopen, run_append, hnamed, run_append, hblank, run_append, hdescribed,
    hend _ _ hcomplete, htake]

/-- What ends a page adds nothing to what was found. -/
theorem found_run_foot (found : List Tag) :
    ((betweenTags found).run "\n  </head>\n</html>\n".toList).found = found := by
  have hparts : "\n  </head>\n</html>\n".toList = "\n  </head".toList ++
      (">".toList ++ ("\n</html".toList ++ (">".toList ++ "\n".toList))) := by
    rfl
  have hhead : (betweenTags found).run "\n  </head".toList =
      (betweenTags found).inName true "head" := by
    rfl
  have hbehind : (betweenTags found).take ⟨true, "head".toList, [], false⟩ = behindHead found := by
    rw [take_closing]
    rfl
  have hhtml : (behindHead found).run "\n</html".toList =
      (behindHead found).inName true "html" := by
    rfl
  rw [hparts, run_append, hhead, run_append, run_inName rfl, hbehind, run_append, hhtml, run_append,
    run_inName rfl, take_closing]
  rfl

end Reader

end Html

end ImageDiscovery
