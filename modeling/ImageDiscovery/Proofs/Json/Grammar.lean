import ImageDiscovery.Proofs.Json.RoundTrip

/-!
# Grammar — which texts are documents

The grammar of RFC 8259, with what each form stands for.  A dialect of it may have words for values
that are no numbers, and may bound the digits of a number; nesting is bounded by levels, and a list
without items takes none.  The members of an object are told as they are written, repeated names too.
-/

namespace ImageDiscovery

namespace Json

/-- What a document may hold beyond the grammar, and what it may not hold. -/
structure Dialect where
  /-- Are `NaN`, `Infinity` and `-Infinity` values? -/
  words : Bool
  /-- The most digits in front of a point, with the sign counted as one, if there is a bound. -/
  maxDigits : Option Nat

/-- The grammar and nothing beside it. -/
def strict : Dialect := ⟨false, none⟩

/-- What a reader takes. -/
def Reading.dialect (r : Reading) : Dialect := ⟨true, some r.maxDigits⟩

/-! ## Numbers -/

/-- Digits, at least one. -/
structure IsDigits (ds : List Char) : Prop where
  ne_nil : ds ≠ []
  digits : ∀ c ∈ ds, c.isDigit = true

/-- The exponent of a number as it is written. -/
structure ExponentForm where
  letter : Char
  sign : Option Char
  digits : List Char

namespace ExponentForm

def chars (e : ExponentForm) : List Char := e.letter :: (e.sign.toList ++ e.digits)

def value (e : ExponentForm) : Int :=
  if e.sign = some '-' then -(Numeral.value e.digits : Int) else Numeral.value e.digits

theorem value_minus (letter : Char) (ds : List Char) :
    (ExponentForm.mk letter (some '-') ds).value = -(Numeral.value ds : Int) := if_pos rfl

theorem value_of_ne {e : ExponentForm} (h : e.sign ≠ some '-') : e.value = Numeral.value e.digits :=
  if_neg h

structure IsValid (e : ExponentForm) : Prop where
  letter : e.letter = 'e' ∨ e.letter = 'E'
  sign : ∀ c ∈ e.sign, c = '-' ∨ c = '+'
  digits : IsDigits e.digits

end ExponentForm

/-- A number as it is written. -/
structure NumberForm where
  negative : Bool
  whole : List Char
  fraction : Option (List Char)
  exponent : Option ExponentForm

namespace NumberForm

/-- What is written behind the whole part. -/
def behind (f : NumberForm) : List Char :=
  f.fraction.elim [] ('.' :: ·) ++ f.exponent.elim [] ExponentForm.chars

def chars (f : NumberForm) : List Char :=
  if f.negative then '-' :: (f.whole ++ f.behind) else f.whole ++ f.behind

/-- A whole number, unless there is a fraction or an exponent. -/
def value (f : NumberForm) : Json :=
  if f.fraction.isNone ∧ f.exponent.isNone then
    .int (if f.negative then -(Numeral.value f.whole : Int) else Numeral.value f.whole)
  else
    .float (signed f.negative ⟨f.whole, f.fraction.getD [], (f.exponent.map ExponentForm.value).getD 0⟩)

structure IsValid (f : NumberForm) : Prop where
  whole : Decimal.Form.IsWhole f.whole
  fraction : ∀ ds ∈ f.fraction, IsDigits ds
  exponent : ∀ e ∈ f.exponent, e.IsValid

/-- The whole part is not too long. -/
def IsWithin (f : NumberForm) (d : Dialect) : Prop :=
  ∀ n ∈ d.maxDigits, f.whole.length + f.negative.toNat ≤ n

end NumberForm

/-! ## Texts -/

/-- The letters of escapes, and what they stand for. -/
def letterEscapes : List (Char × Char) :=
  [('"', '"'), ('\\', '\\'), ('/', '/'), ('b', '\x08'), ('f', '\x0c'), ('n', '\n'), ('r', '\r'),
    ('t', '\t')]

/-- The texts that stand for one point between quotes. -/
inductive PointForm : Text → CodePoint → Prop where
  | plain {c : Char} (hquote : c ≠ '"') (hescape : c ≠ '\\') (hcontrol : 0x20 ≤ c.toNat) :
    PointForm [.char c] (.char c)
  | letter {e c : Char} (h : (e, c) ∈ letterEscapes) : PointForm [.char '\\', .char e] (.char c)
  | unit {a b c d p : CodePoint} {w x y z : Nat} (ha : a.hexValue? = some w)
    (hb : b.hexValue? = some x) (hc : c.hexValue? = some y) (hd : d.hexValue? = some z)
    (hp : p.toNat = ((w * 16 + x) * 16 + y) * 16 + z) :
    PointForm [.char '\\', .char 'u', a, b, c, d] p

/-- One form behind the other. -/
inductive PointForms : Text → Text → Prop where
  | nil : PointForms [] []
  | cons {s t points : Text} {p : CodePoint} (hfirst : PointForm s p) (hrest : PointForms t points) :
    PointForms (s ++ t) (p :: points)

/-- Between quotes, with pairs of halves joined; no other half may be left. -/
structure TextForm (t content : Text) : Prop where
  encodable : content.Encodable
  points : ∃ inner points, t = .char '"' :: (inner ++ [.char '"']) ∧ PointForms inner points ∧
    content = paired points

/-! ## Documents -/

/-- Documents without items and members. -/
inductive LeafForm (d : Dialect) : Text → Json → Prop where
  | null : LeafForm d "null" null
  | bool (b : Bool) : LeafForm d (if b then "true" else "false") (bool b)
  | number {f : NumberForm} (h : f.IsValid) (hmax : f.IsWithin d) :
    LeafForm d (Text.ofChars f.chars) f.value
  | text {t content : Text} (h : TextForm t content) : LeafForm d t (text content)
  | nan (h : d.words = true) : LeafForm d "NaN" (float .nan)
  | infinity (h : d.words = true) : LeafForm d "Infinity" (float .infinity)
  | minusInfinity (h : d.words = true) : LeafForm d "-Infinity" (float Binary64.infinity.neg)

mutual

/-- The texts that stand for a value, with items and members nested at most so many levels deep. -/
inductive ValueForm (d : Dialect) : Nat → Text → Json → Prop where
  | leaf {levels : Nat} {t : Text} {v : Json} (h : LeafForm d t v) : ValueForm d (levels + 1) t v
  | emptyArray {levels : Nat} {space : Text} (hspace : IsBlank space) :
    ValueForm d (levels + 1) (.char '[' :: (space ++ [.char ']'])) (array [])
  | array {levels : Nat} {space first rest : Text} {item : Json} {items : List Json}
    (hspace : IsBlank space) (hfirst : ValueForm d levels first item)
    (hrest : ItemForms d levels rest items) :
    ValueForm d (levels + 1) (.char '[' :: (space ++ (first ++ rest))) (array (item :: items))
  | emptyObject {levels : Nat} {space : Text} (hspace : IsBlank space) :
    ValueForm d (levels + 1) (.char '{' :: (space ++ [.char '}'])) (object [])
  | object {levels : Nat} {space first rest : Text} {member : Text × Json}
    {members : List (Text × Json)} (hspace : IsBlank space) (hfirst : MemberForm d levels first member)
    (hrest : MemberForms d levels rest members) :
    ValueForm d (levels + 1) (.char '{' :: (space ++ (first ++ rest))) (object (member :: members))

/-- What follows the first item of a list, up to what closes it. -/
inductive ItemForms (d : Dialect) : Nat → Text → List Json → Prop where
  | nil {levels : Nat} {space : Text} (hspace : IsBlank space) :
    ItemForms d levels (space ++ [.char ']']) []
  | cons {levels : Nat} {space space' first rest : Text} {item : Json} {items : List Json}
    (hspace : IsBlank space) (hspace' : IsBlank space') (hfirst : ValueForm d levels first item)
    (hrest : ItemForms d levels rest items) :
    ItemForms d levels (space ++ .char ',' :: (space' ++ (first ++ rest))) (item :: items)

inductive MemberForm (d : Dialect) : Nat → Text → Text × Json → Prop where
  | mk {levels : Nat} {name key space space' t : Text} {v : Json} (hname : TextForm name key)
    (hspace : IsBlank space) (hspace' : IsBlank space') (hv : ValueForm d levels t v) :
    MemberForm d levels (name ++ (space ++ .char ':' :: (space' ++ t))) (key, v)

/-- What follows the first member of an object. -/
inductive MemberForms (d : Dialect) : Nat → Text → List (Text × Json) → Prop where
  | nil {levels : Nat} {space : Text} (hspace : IsBlank space) :
    MemberForms d levels (space ++ [.char '}']) []
  | cons {levels : Nat} {space space' first rest : Text} {member : Text × Json}
    {members : List (Text × Json)} (hspace : IsBlank space) (hspace' : IsBlank space')
    (hfirst : MemberForm d levels first member) (hrest : MemberForms d levels rest members) :
    MemberForms d levels (space ++ .char ',' :: (space' ++ (first ++ rest))) (member :: members)

end

/-- The texts that stand for a document: a value with white space around it. -/
structure IsDocument (d : Dialect) (levels : Nat) (t : Text) (v : Json) : Prop where
  value : ∃ space form space', IsBlank space ∧ ValueForm d levels form v ∧ IsBlank space' ∧
    t = space ++ (form ++ space')

end Json

end ImageDiscovery
