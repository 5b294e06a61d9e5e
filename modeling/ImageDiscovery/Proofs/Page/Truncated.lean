import ImageDiscovery.Page.Declarations
import ImageDiscovery.Proofs.Html.Progress
import ImageDiscovery.Proofs.Text.Utf8
import Mathlib.Data.List.Induction

/-!
# Truncated pages — what is read of the beginning of a page

A page may end anywhere, or go on with anything.  Each of its declarations is complete at one byte, the
`>` that ends its tag, and is read if and only if that byte is: what stands behind it takes nothing away
and changes nothing.
-/

namespace ImageDiscovery

namespace Utf8

variable {bs rest : Bytes} {b : UInt8} {c : Char}

/-! ## One more byte -/

theorem decodeBytewise_nil : decodeBytewise [] = [] := by
  rw [decodeBytewise, decode]
  rfl

theorem decodeBytewise_of_read? (h : read? bs = some (c, rest)) :
    decodeBytewise bs = c :: decodeBytewise rest := by
  rw [decodeBytewise, decode]
  split
  · rename_i hread
    rw [h] at hread
    cases hread
    rfl
  · rename_i hread
    rw [h] at hread
    cases hread

theorem decodeBytewise_of_not_read? (h : read? (b :: bs) = none) :
    decodeBytewise (b :: bs) = '\uFFFD' :: decodeBytewise bs := by
  rw [decodeBytewise, decode]
  split
  · rename_i hread
    rw [h] at hread
    cases hread
  · rfl

theorem read?_append (h : read? bs = some (c, rest)) (more : Bytes) :
    read? (bs ++ more) = some (c, rest ++ more) := by
  rw [eq_of_read? h, List.append_assoc, read?_encodeNat]

/-- A character of ASCII is the byte that it is read from. -/
theorem mem_of_mem_decodeBytewise {bs : Bytes} (h : '>' ∈ decodeBytewise bs) : 0x3E ∈ bs := by
  cases hread : read? bs with
  | some read =>
    obtain ⟨c, rest⟩ := read
    have hbytes := eq_of_read? hread
    rw [decodeBytewise_of_read? hread] at h
    rw [hbytes, List.mem_append]
    cases h with
    | head => exact .inl (by decide)
    | tail _ h =>
      have := length_lt_of_read? hread
      exact .inr (mem_of_mem_decodeBytewise h)
  | none =>
    cases bs with
    | nil =>
      rw [decodeBytewise_nil] at h
      cases h
    | cons b bs =>
      rw [decodeBytewise_of_not_read? hread] at h
      exact .tail _ (mem_of_mem_decodeBytewise (List.mem_of_ne_of_mem (by decide) h))
termination_by bs.length

/-- No byte of a longer sequence is one of ASCII. -/
theorem le_toNat_of_mem_encodeNat {n : Nat} (h : 0x80 ≤ n) (hn : n < 0x110000)
    (hb : b ∈ encodeNat n) : 0x80 ≤ b.toNat := by
  have hcontinuation : ∀ shift, 0x80 ≤ (continuation n shift).toNat := by
    intro shift
    rw [toNat_continuation]
    omega
  unfold encodeNat at hb
  rw [if_neg (by omega)] at hb
  by_cases htwo : n < 0x800
  · have hfirst : (UInt8.ofNat (0xC0 + n >>> 6)).toNat = 0xC0 + n / 2 ^ 6 := by
      rw [Nat.shiftRight_eq_div_pow, toNat_ofNat (by omega)]
    rw [if_pos htwo] at hb
    simp only [List.mem_cons, List.not_mem_nil, or_false] at hb
    rcases hb with rfl | rfl
    · omega
    · exact hcontinuation _
  rw [if_neg htwo] at hb
  by_cases hthree : n < 0x10000
  · have hfirst : (UInt8.ofNat (0xE0 + n >>> 12)).toNat = 0xE0 + n / 2 ^ 12 := by
      rw [Nat.shiftRight_eq_div_pow, toNat_ofNat (by omega)]
    rw [if_pos hthree] at hb
    simp only [List.mem_cons, List.not_mem_nil, or_false] at hb
    rcases hb with rfl | rfl | rfl
    · omega
    · exact hcontinuation _
    · exact hcontinuation _
  · have hfirst : (UInt8.ofNat (0xF0 + n >>> 18)).toNat = 0xF0 + n / 2 ^ 18 := by
      rw [Nat.shiftRight_eq_div_pow, toNat_ofNat (by omega)]
    rw [if_neg hthree] at hb
    simp only [List.mem_cons, List.not_mem_nil, or_false] at hb
    rcases hb with rfl | rfl | rfl | rfl
    · omega
    · exact hcontinuation _
    · exact hcontinuation _
    · exact hcontinuation _

/-- A byte that completes a sequence is not of ASCII, and neither is what it completes. -/
theorem of_read?_snoc (hbs : bs ≠ []) (hnone : read? bs = none)
    (h : read? (bs ++ [b]) = some (c, rest)) :
    rest = [] ∧ c ≠ '>' ∧ 0x3E ∉ bs ++ [b] := by
  have hbytes := eq_of_read? h
  -- the last byte is a part of the sequence, or the sequence would have been read without it
  have hrest : rest = [] := by
    cases List.eq_nil_or_concat rest with
    | inl hnil => exact hnil
    | inr hlast =>
      obtain ⟨start, last, hstart⟩ := hlast
      rw [hstart, List.concat_eq_append, ← List.append_assoc] at hbytes
      have hsame := (List.append_inj' hbytes rfl).1
      rw [hsame, read?_encodeNat] at hnone
      cases hnone
  subst hrest
  rw [List.append_nil] at hbytes
  have hlong : 0x80 ≤ c.toNat := by
    apply Decidable.byContradiction
    intro hshort
    rw [encodeNat, if_pos (by omega)] at hbytes
    have hlength := congrArg List.length hbytes
    rw [List.length_append] at hlength
    exact hbs (List.length_eq_zero_iff.mp (by simpa using hlength))
  refine ⟨rfl, ?_, ?_⟩
  · rintro rfl
    exact absurd hlong (by decide)
  · intro hmem
    rw [hbytes] at hmem
    have hbounds := toNat_bounds c
    exact absurd (le_toNat_of_mem_encodeNat hlong (by omega) hmem) (by decide)

/-- One more byte changes only characters at the end that are no `>`, and adds a `>` if it is one. -/
theorem exists_decodeBytewise_snoc (bs : Bytes) (b : UInt8) :
    ∃ before broken added, decodeBytewise bs = before ++ broken ∧
      decodeBytewise (bs ++ [b]) = before ++ added ∧ '>' ∉ broken ∧
      (b ≠ 0x3E → '>' ∉ added) ∧ (b = 0x3E → broken = [] ∧ added = ['>']) := by
  cases hread : read? bs with
  | some read =>
    obtain ⟨c, rest⟩ := read
    have := length_lt_of_read? hread
    obtain ⟨before, broken, added, hbefore, hadded, hends⟩ := exists_decodeBytewise_snoc rest b
    refine ⟨c :: before, broken, added, ?_, ?_, hends⟩
    · rw [decodeBytewise_of_read? hread, hbefore]
      rfl
    · rw [decodeBytewise_of_read? (read?_append hread [b]), hadded]
      rfl
  | none =>
    cases bs with
    | nil =>
      refine ⟨[], [], decodeBytewise [b], decodeBytewise_nil, rfl, List.not_mem_nil, ?_, ?_⟩
      · intro hb hmem
        exact hb (List.mem_singleton.mp (mem_of_mem_decodeBytewise hmem)).symm
      · rintro rfl
        have hread : read? [0x3E] = some ('>', []) := by decide
        exact ⟨rfl, by rw [decodeBytewise_of_read? hread, decodeBytewise_nil]⟩
    | cons a bs =>
      cases hmore : read? (a :: bs ++ [b]) with
      | none =>
        obtain ⟨before, broken, added, hbefore, hadded, hends⟩ := exists_decodeBytewise_snoc bs b
        refine ⟨'\uFFFD' :: before, broken, added, ?_, ?_, hends⟩
        · rw [decodeBytewise_of_not_read? hread, hbefore]
          rfl
        · have hmore' : read? (a :: (bs ++ [b])) = none := hmore
          rw [List.cons_append, decodeBytewise_of_not_read? hmore', hadded]
          rfl
      | some read =>
        -- the byte completes the sequence that all the bytes before it begin
        obtain ⟨c, rest⟩ := read
        obtain ⟨rfl, hc, hbytes⟩ := of_read?_snoc (List.cons_ne_nil a bs) hread hmore
        rw [List.mem_append, List.mem_singleton, not_or] at hbytes
        refine ⟨[], decodeBytewise (a :: bs), [c], rfl, ?_, ?_, ?_, ?_⟩
        · rw [decodeBytewise_of_read? hmore, decodeBytewise_nil]
          rfl
        · exact fun hmem => hbytes.1 (mem_of_mem_decodeBytewise hmem)
        · exact fun _ hmem => hc (List.mem_singleton.mp hmem).symm
        · exact fun hb => absurd hb.symm hbytes.2
termination_by bs.length

end Utf8

namespace Page

open Html (Reader Tag)

/-! ## Readers at a byte -/

/-- How far reading has come when all bytes of a page are read. -/
def readerAfter (page : Bytes) : Reader := ({} : Reader).run (Html.normalized (Utf8.decodeBytewise page))

theorem declarations_eq (page : Bytes) :
    declarations page = (readerAfter page).found.reverse.filterMap declaration? := rfl

theorem declarations_nil : declarations [] = [] := by
  rw [declarations, Utf8.decodeBytewise_nil]
  rfl

/-- A byte of a page that ends the tag of a declaration. -/
structure Completes (page : Bytes) (position : Nat) (d : Declaration) : Prop where
  mark : page[position]? = some 0x3E
  tag : ∃ t, (readerAfter (page.take position)).Ends t ∧ declaration? t = some d

theorem found_readerAfter_snoc (page : Bytes) {b : UInt8} (hb : b ≠ 0x3E) :
    (readerAfter (page ++ [b])).found = (readerAfter page).found := by
  obtain ⟨before, broken, added, hbefore, hadded, hbroken, hmore, -⟩ :=
    Utf8.exists_decodeBytewise_snoc page b
  rw [readerAfter, readerAfter, hbefore, hadded, Html.found_run_normalized_append _ _ (hmore hb),
    Html.found_run_normalized_append _ _ hbroken]

theorem readerAfter_snoc_mark (page : Bytes) :
    readerAfter (page ++ [0x3E]) = (readerAfter page).step '>' := by
  obtain ⟨before, broken, added, hbefore, hadded, -, -, hmark⟩ :=
    Utf8.exists_decodeBytewise_snoc page 0x3E
  obtain ⟨rfl, rfl⟩ := hmark rfl
  rw [readerAfter, readerAfter, hbefore, hadded, List.append_nil, Html.run_normalized_append_end]

theorem completes_snoc_of_lt {page : Bytes} {b : UInt8} {i : Nat} {d : Declaration}
    (hi : i < page.length) : Completes (page ++ [b]) i d ↔ Completes page i d := by
  have hbyte : (page ++ [b])[i]? = page[i]? := List.getElem?_append_left hi
  have htake : (page ++ [b]).take i = page.take i := List.take_append_of_le_length (by omega)
  constructor
  · intro h
    exact ⟨hbyte ▸ h.mark, htake ▸ h.tag⟩
  · intro h
    exact ⟨hbyte.trans h.mark, htake.symm ▸ h.tag⟩

theorem completes_snoc_length {page : Bytes} {b : UInt8} {d : Declaration} :
    Completes (page ++ [b]) page.length d ↔
      b = 0x3E ∧ ∃ t, (readerAfter page).Ends t ∧ declaration? t = some d := by
  have hbyte : (page ++ [b])[page.length]? = some b := List.getElem?_concat_length
  have htake : (page ++ [b]).take page.length = page := List.take_left
  constructor
  · intro h
    have hmark := h.mark
    have htag := h.tag
    rw [hbyte] at hmark
    rw [htake] at htag
    exact ⟨Option.some.inj hmark, htag⟩
  · rintro ⟨rfl, htag⟩
    exact ⟨hbyte, htake.symm ▸ htag⟩

theorem Completes.lt_length {page : Bytes} {i : Nat} {d : Declaration} (h : Completes page i d) :
    i < page.length := by
  have hmark := h.mark
  rw [List.getElem?_eq_some_iff] at hmark
  exact hmark.choose

/-- A last byte completes one declaration, and that is read behind the others, or it completes none. -/
theorem declarations_snoc (page : Bytes) (b : UInt8) :
    (declarations (page ++ [b]) = declarations page ∧
        ∀ d, ¬ Completes (page ++ [b]) page.length d) ∨
      ∃ d, declarations (page ++ [b]) = declarations page ++ [d] ∧
        ∀ d', Completes (page ++ [b]) page.length d' ↔ d' = d := by
  simp only [completes_snoc_length, declarations_eq]
  by_cases hb : b = 0x3E
  · subst hb
    rw [readerAfter_snoc_mark]
    by_cases hends : ∃ t, (readerAfter page).Ends t
    · obtain ⟨t, ht⟩ := hends
      rw [Reader.found_step_of_ends ht, List.reverse_cons, List.filterMap_append]
      cases hd : declaration? t with
      | none =>
        left
        refine ⟨by simp [hd], ?_⟩
        rintro d ⟨-, t', ht', hd'⟩
        rw [ht'.unique ht, hd] at hd'
        cases hd'
      | some d =>
        refine .inr ⟨d, by simp [hd], fun d' => ⟨?_, ?_⟩⟩
        · rintro ⟨-, t', ht', hd'⟩
          rw [ht'.unique ht, hd] at hd'
          exact (Option.some.inj hd').symm
        · rintro rfl
          exact ⟨rfl, t, ht, hd⟩
    · left
      rw [Reader.found_step_of_not_ends fun t ht => hends ⟨t, ht⟩]
      exact ⟨rfl, fun d h => hends ⟨_, h.2.choose_spec.1⟩⟩
  · left
    rw [found_readerAfter_snoc page hb]
    exact ⟨rfl, fun d h => hb h.1⟩

/-! ## Beginnings of pages -/

/-- What follows a page takes away none of its declarations. -/
theorem declarations_prefix_append (page rest : Bytes) :
    declarations page <+: declarations (page ++ rest) := by
  induction rest using List.reverseRecOn with
  | nil =>
    exact (List.append_nil page).symm ▸ List.prefix_rfl
  | append_singleton rest b ih =>
    rw [← List.append_assoc]
    rcases declarations_snoc (page ++ rest) b with ⟨hsame, -⟩ | ⟨d, hadded, -⟩
    · rw [hsame]
      exact ih
    · rw [hadded]
      exact ih.trans (List.prefix_append _ _)

/-- The declarations of a page with the bytes that complete them. -/
structure IsOutline (page : Bytes) (outline : List (Nat × Declaration)) : Prop where
  ordered : outline.Pairwise fun a b => a.1 < b.1
  mem_iff : ∀ i d, (i, d) ∈ outline ↔ Completes page i d
  take : ∀ n, declarations (page.take n) = (outline.filter (·.1 < n)).map Prod.snd

theorem exists_isOutline (page : Bytes) : ∃ outline, IsOutline page outline := by
  induction page using List.reverseRecOn with
  | nil =>
    refine ⟨[], .nil, fun i d => ⟨nofun, fun h => absurd h.lt_length (Nat.not_lt_zero i)⟩, fun n => ?_⟩
    rw [List.take_nil, declarations_nil]
    rfl
  | append_singleton page b ih =>
    obtain ⟨outline, hordered, hmem, htake⟩ := ih
    have hbefore : ∀ entry ∈ outline, entry.1 < page.length := fun entry hentry =>
      ((hmem entry.1 entry.2).mp hentry).lt_length
    have hlast : ∀ {i d}, Completes (page ++ [b]) i d → ¬ i < page.length → i = page.length := by
      intro i d h hi
      have := h.lt_length
      rw [List.length_append, List.length_singleton] at this
      omega
    -- a shorter beginning does not reach the last byte
    have hshort : ∀ n, n ≤ page.length →
        declarations ((page ++ [b]).take n) = (outline.filter (·.1 < n)).map Prod.snd := by
      intro n hn
      rw [List.take_append_of_le_length hn, htake]
    have hlong : ∀ n, ¬ n ≤ page.length → (page ++ [b]).take n = page ++ [b] := by
      intro n hn
      apply List.take_of_length_le
      rw [List.length_append, List.length_singleton]
      omega
    have hall : ∀ n, page.length ≤ n → outline.filter (·.1 < n) = outline := by
      intro n hn
      rw [List.filter_eq_self]
      intro entry hentry
      have := hbefore entry hentry
      exact decide_eq_true (by omega)
    have hpage : declarations page = outline.map Prod.snd := by
      have hwhole := htake page.length
      rwa [List.take_length, hall _ (Nat.le_refl _)] at hwhole
    rcases declarations_snoc page b with ⟨hsame, hnone⟩ | ⟨d, hadded, hd⟩
    · refine ⟨outline, hordered, fun i d => ?_, fun n => ?_⟩
      · rw [hmem]
        by_cases hi : i < page.length
        · exact (completes_snoc_of_lt hi).symm
        · refine ⟨fun h => absurd h.lt_length hi, fun h => ?_⟩
          obtain rfl := hlast h hi
          exact absurd h (hnone d)
      · by_cases hn : n ≤ page.length
        · exact hshort n hn
        · rw [hlong n hn, hsame, hpage, hall n (by omega)]
    · refine ⟨outline ++ [(page.length, d)], ?_, fun i d' => ?_, fun n => ?_⟩
      · refine List.pairwise_append.mpr ⟨hordered, List.pairwise_singleton _ _, ?_⟩
        intro entry hentry last hl
        rw [List.mem_singleton.mp hl]
        exact hbefore entry hentry
      · rw [List.mem_append, List.mem_singleton, hmem, Prod.mk.injEq]
        by_cases hi : i < page.length
        · rw [completes_snoc_of_lt hi]
          exact or_iff_left fun h => absurd h.1 (by omega)
        · refine ⟨?_, fun h => ?_⟩
          · rintro (h | ⟨rfl, rfl⟩)
            · exact absurd h.lt_length hi
            · exact (hd d').mpr rfl
          · obtain rfl := hlast h hi
            exact .inr ⟨rfl, (hd d').mp h⟩
      · rw [List.filter_append, List.map_append]
        by_cases hn : n ≤ page.length
        · have hlate : ¬ page.length < n := by omega
          simp [hshort n hn, hlate]
        · have hearly : page.length < n := by omega
          rw [hlong n hn, hadded, hpage, hall n (by omega)]
          simp [hearly]

/-- **Truncated pages.**  What is read of the beginning of a page is read first of the whole page, and of
    anything else that begins so.  Each declaration is complete at a byte of its own, and of a beginning
    those are read, in their order, whose bytes stand in it. -/
theorem declarations_take (page : Bytes) :
    (∀ n, declarations (page.take n) <+: declarations page) ∧
      (∀ n rest, declarations (page.take n) <+: declarations (page.take n ++ rest)) ∧
      ∃ outline, IsOutline page outline := by
  have hfirst : ∀ n, declarations (page.take n) <+: declarations page := by
    intro n
    have happend := declarations_prefix_append (page.take n) (page.drop n)
    rwa [List.take_append_drop] at happend
  exact ⟨hfirst, fun n rest => declarations_prefix_append (page.take n) rest, exists_isOutline page⟩

/-- A page with an element that declares something, one that does not and a third that is cut off. -/
def outlinedPage : Bytes :=
  Text.utf8 "<p><meta name=ac-discovery content='a u'><meta name=b content='c d'><meta name=ac-x"

/-- The declaration is complete where its element ends. -/
theorem declarations_take_once :
    IsOutline outlinedPage [(40, ⟨"ac-discovery", "a", "u"⟩)] := by
  rcases (declarations_take outlinedPage).2.2 with ⟨outline, houtline⟩
  have hwhole : outline.filter (·.1 < outlinedPage.length) = outline := by
    rw [List.filter_eq_self]
    intro entry hentry
    exact decide_eq_true ((houtline.mem_iff entry.1 entry.2).mp hentry).lt_length
  have hone : outline.map Prod.snd = [⟨"ac-discovery", "a", "u"⟩] := by
    rw [← hwhole, ← houtline.take]
    decide +kernel
  rcases List.map_eq_singleton_iff.mp hone with ⟨⟨i, d⟩, rfl, rfl⟩
  -- it is not there before its last byte, and it is with that byte
  have hbefore : ¬ i < 40 := by
    intro hi
    have htake := houtline.take 40
    have hnone : declarations (outlinedPage.take 40) = [] := by decide +kernel
    rw [hnone, List.filter_cons_of_pos (by simpa using hi)] at htake
    exact nomatch htake
  have hafter : i < 41 := by
    refine Nat.lt_of_not_le fun hi => ?_
    have htake := houtline.take 41
    have hsome : declarations (outlinedPage.take 41) = [⟨"ac-discovery", "a", "u"⟩] := by
      decide +kernel
    rw [hsome, List.filter_cons_of_neg (by simpa using hi)] at htake
    exact nomatch htake
  have hi : i = 40 := by omega
  exact hi ▸ houtline

end Page

end ImageDiscovery
