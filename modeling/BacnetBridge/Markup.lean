import Mathlib.Data.List.Find

/-! Text that is written among tags, and what is read of it again. Nothing here depends on
what the text says or what the tags mean. -/
namespace Markup

/-! ## References -/

/-- What a text does not hold as it is, and the names it is written by. -/
def references : List (Char × List Char) := [
  ('&', ['a', 'm', 'p']),
  ('\u00a0', ['n', 'b', 's', 'p']),
  ('<', ['l', 't']),
  ('>', ['g', 't'])]

def escapeChar (c : Char) : List Char :=
  match references.lookup c with
  | some name => '&' :: (name ++ [';'])
  | none => [c]

def escape (text : List Char) : List Char := text.flatMap escapeChar

theorem escape_cons (c : Char) (text : List Char) :
    escape (c :: text) = escapeChar c ++ escape text := List.flatMap_cons

/-- The reference that follows an `&`, and its length. It may lack the semicolon. -/
def reference? (text : List Char) : Option (Char × Nat) :=
  (references.find? fun r => r.2.isPrefixOf text).map fun r =>
    (r.1, if (text.drop r.2.length).head? = some ';' then r.2.length + 1 else r.2.length)

/-- What is read of a text without tags, from its `skip`th character on. -/
def unescape : Nat → List Char → List Char
  | _, [] => []
  | skip + 1, _ :: rest => unescape skip rest
  | 0, c :: rest =>
    match if c = '&' then reference? rest else none with
    | some (d, n) => d :: unescape n rest
    | none => c :: unescape 0 rest

@[simp] theorem unescape_nil (skip : Nat) : unescape skip [] = [] := by cases skip <;> rfl

theorem unescape_drop (xs rest : List Char) :
    unescape xs.length (xs ++ rest) = unescape 0 rest := by
  induction xs with
  | nil => rfl
  | cons x xs ih => exact ih

theorem unescape_cons {c : Char} (h : c ≠ '&') (rest : List Char) :
    unescape 0 (c :: rest) = c :: unescape 0 rest := by
  simp [unescape, h]

theorem unescape_reference {rest : List Char} {d : Char} {n : Nat}
    (h : reference? rest = some (d, n)) : unescape 0 ('&' :: rest) = d :: unescape n rest := by
  simp [unescape, h]

theorem unescape_ampersand {rest : List Char} (h : reference? rest = none) :
    unescape 0 ('&' :: rest) = '&' :: unescape 0 rest := by
  simp [unescape, h]

/-- No name is the beginning of another. -/
theorem reference?_name {r : Char × List Char} (h : r ∈ references) (rest : List Char) :
    reference? (r.2 ++ ';' :: rest) = some (r.1, r.2.length + 1) := by
  simp only [references, List.mem_cons, List.not_mem_nil, or_false] at h
  rcases h with rfl | rfl | rfl | rfl <;> rfl

theorem mem_of_lookup {c : Char} {name : List Char} (h : references.lookup c = some name) :
    (c, name) ∈ references := by
  obtain ⟨before, after, hsplit, -⟩ := List.lookup_eq_some_iff.mp h
  rw [hsplit]
  exact List.mem_append_right _ List.mem_cons_self

theorem ne_ampersand_of_lookup {c : Char} (h : references.lookup c = none) : c ≠ '&' := by
  rintro rfl
  cases h

theorem unescape_escapeChar (c : Char) (rest : List Char) :
    unescape 0 (escapeChar c ++ rest) = c :: unescape 0 rest := by
  unfold escapeChar
  split
  · rename_i name hname
    have hread : reference? (name ++ ';' :: rest) = some (c, name.length + 1) :=
      reference?_name (mem_of_lookup hname) rest
    have hskip : unescape (name.length + 1) (name ++ ';' :: rest) = unescape 0 rest := by
      simpa using unescape_drop (name ++ [';']) rest
    rw [List.cons_append, List.append_assoc, List.singleton_append, unescape_reference hread,
      hskip]
  · rename_i hplain
    exact unescape_cons (ne_ampersand_of_lookup hplain) rest

theorem unescape_escape (text rest : List Char) :
    unescape 0 (escape text ++ rest) = text ++ unescape 0 rest := by
  induction text with
  | nil => rfl
  | cons c text ih =>
    rw [escape_cons, List.append_assoc, unescape_escapeChar, ih]
    rfl

theorem unescape_plain {xs : List Char} (h : '&' ∉ xs) (rest : List Char) :
    unescape 0 (xs ++ rest) = xs ++ unescape 0 rest := by
  induction xs with
  | nil => rfl
  | cons x xs ih =>
    rw [List.mem_cons, not_or] at h
    rw [List.cons_append, unescape_cons (Ne.symm h.1), ih h.2]
    rfl

theorem unescape_ne_nil {xs : List Char} (h : xs ≠ []) : unescape 0 xs ≠ [] := by
  cases xs with
  | nil => exact absurd rfl h
  | cons x xs =>
    simp only [unescape]
    split <;> simp

/-! ## A text in pieces -/

theorem escape_append (a b : List Char) : escape (a ++ b) = escape a ++ escape b :=
  List.flatMap_append

theorem unescape_of_escape (text : List Char) : unescape 0 (escape text) = text := by
  simpa using unescape_escape text []

theorem escape_injective {a b : List Char} (h : escape a = escape b) : a = b := by
  rw [← unescape_of_escape a, h, unescape_of_escape]

theorem lt_not_mem_escape (text : List Char) : '<' ∉ escape text := by
  intro h
  obtain ⟨c, -, hc⟩ := List.mem_flatMap.mp h
  unfold escapeChar at hc
  split at hc
  · rename_i name hname
    have hnames : ∀ r ∈ references, '<' ∉ '&' :: (r.2 ++ [';']) := by decide
    exact hnames _ (mem_of_lookup hname) hc
  · rename_i hplain
    obtain rfl := List.mem_singleton.mp hc
    cases hplain

/-- Behind its first character the form of a character is read as it is. -/
theorem tail_plain {c : Char} {p q : List Char} (h : escapeChar c = p ++ q) (hp : p ≠ []) :
    '&' ∉ q := by
  obtain ⟨x, p, rfl⟩ := List.exists_cons_of_ne_nil hp
  unfold escapeChar at h
  split at h
  · rename_i name hname
    obtain ⟨-, htail⟩ := List.cons.inj h
    have hnames : ∀ r ∈ references, '&' ∉ r.2 ++ [';'] := by decide
    have hplain := hnames _ (mem_of_lookup hname)
    rw [htail] at hplain
    exact fun hmem => hplain (List.mem_append_right _ hmem)
  · obtain ⟨-, htail⟩ := List.cons.inj h
    have hnil : q = [] := (List.append_eq_nil_iff.mp htail.symm).2
    simp [hnil]

/-- An escaped text is cut between two characters, or within the form of one. -/
theorem escape_eq_append {text r s : List Char} (h : escape text = r ++ s) :
    (∃ a b, text = a ++ b ∧ r = escape a ∧ s = escape b) ∨
      ∃ a c b p q, text = a ++ c :: b ∧ escapeChar c = p ++ q ∧ p ≠ [] ∧ q ≠ [] ∧
        r = escape a ++ p ∧ s = q ++ escape b := by
  induction text generalizing r with
  | nil =>
    obtain ⟨rfl, rfl⟩ := List.append_eq_nil_iff.mp h.symm
    exact .inl ⟨[], [], rfl, rfl, rfl⟩
  | cons c text ih =>
    rw [escape_cons, List.append_eq_append_iff] at h
    rcases h with ⟨r', rfl, h⟩ | ⟨q, hc, hs⟩
    · rcases ih h with ⟨a, b, rfl, rfl, rfl⟩ | ⟨a, d, b, p, q, rfl, hd, hp, hq, rfl, rfl⟩
      · exact .inl ⟨c :: a, b, rfl, rfl, rfl⟩
      · exact .inr ⟨c :: a, d, b, p, q, rfl, hd, hp, hq, by simp [escape_cons], rfl⟩
    · by_cases hr : r = []
      · subst hr
        refine .inl ⟨[], c :: text, rfl, rfl, ?_⟩
        rw [hs, escape_cons, hc]
        rfl
      by_cases hq : q = []
      · subst hq
        exact .inl ⟨[c], text, rfl, by simp [escape, hc], hs⟩
      · exact .inr ⟨[], c, text, r, q, rfl, hc, hr, hq, rfl, hs⟩

/-- The pieces of a text of which the first `q` is the end of a form that is cut: what is
read of them is too long unless each is the form of a text. -/
theorem pieces_read {pieces : List (List Char)} {q text : List Char} (hq : '&' ∉ q)
    (h : pieces.flatten = q ++ escape text) :
    q.length + text.length ≤ (pieces.flatMap (unescape 0)).length ∧
      (q = [] → (pieces.flatMap (unescape 0)).length = text.length →
        ∀ piece ∈ pieces, ∃ t, piece = escape t) := by
  induction pieces generalizing q text with
  | nil =>
    obtain ⟨rfl, htext⟩ := List.append_eq_nil_iff.mp h.symm
    obtain rfl : text = [] := escape_injective htext
    exact ⟨Nat.le_refl _, fun _ _ => by simp⟩
  | cons piece pieces ih =>
    rw [List.flatten_cons, List.append_eq_append_iff] at h
    rw [List.flatMap_cons, List.length_append]
    rcases h with ⟨q', rfl, hrest⟩ | ⟨r, rfl, hrest⟩
    · rw [List.mem_append, not_or] at hq
      obtain ⟨hle, hall⟩ := ih hq.2 hrest
      have hread : unescape 0 piece = piece := by simpa using unescape_plain hq.1 []
      rw [hread, List.length_append]
      refine ⟨by omega, ?_⟩
      intro hnil hlen
      obtain ⟨rfl, rfl⟩ := List.append_eq_nil_iff.mp hnil
      rw [List.length_nil, Nat.zero_add] at hlen
      exact List.forall_mem_cons.mpr ⟨⟨[], rfl⟩, hall rfl hlen⟩
    · rcases escape_eq_append hrest with
        ⟨a, b, rfl, rfl, hb⟩ | ⟨a, c, b, p, q', rfl, hc, hp, hq', rfl, hb⟩
      · obtain ⟨hle, hall⟩ := ih (q := []) (by simp) hb
        have hread : unescape 0 (q ++ escape a) = q ++ a := by
          rw [unescape_plain hq, unescape_of_escape]
        rw [hread, List.length_append, List.length_append]
        rw [List.length_nil] at hle
        refine ⟨by omega, ?_⟩
        rintro rfl hlen
        rw [List.length_nil] at hlen
        exact List.forall_mem_cons.mpr ⟨⟨a, rfl⟩, hall rfl (by omega)⟩
      · obtain ⟨hle, -⟩ := ih (tail_plain hc hp) hb
        have hread : unescape 0 (q ++ (escape a ++ p)) = q ++ (a ++ unescape 0 p) := by
          rw [unescape_plain hq, unescape_escape]
        have hone : 0 < (unescape 0 p).length := List.length_pos_iff.mpr (unescape_ne_nil hp)
        have hmore : 0 < q'.length := List.length_pos_iff.mpr hq'
        rw [hread, List.length_append, List.length_append, List.length_append,
          List.length_cons]
        refine ⟨by omega, ?_⟩
        rintro rfl hlen
        rw [List.length_nil] at hlen
        omega

theorem length_le_pieces {pieces : List (List Char)} {text : List Char}
    (h : pieces.flatten = escape text) :
    text.length ≤ (pieces.flatMap (unescape 0)).length := by
  simpa using (pieces_read (q := []) (by simp) h).1

/-- An escaped text in pieces is read as the text exactly if each piece is the form of a
text: if no character is cut. -/
theorem pieces_read_iff {pieces : List (List Char)} {text : List Char}
    (h : pieces.flatten = escape text) :
    pieces.flatMap (unescape 0) = text ↔ ∀ piece ∈ pieces, ∃ t, piece = escape t := by
  constructor
  · intro hread
    exact (pieces_read (q := []) (by simp) h).2 rfl (congrArg List.length hread)
  · intro hall
    apply escape_injective
    rw [← h]
    clear h
    induction pieces with
    | nil => rfl
    | cons piece pieces ih =>
      obtain ⟨⟨t, rfl⟩, hrest⟩ := List.forall_mem_cons.mp hall
      rw [List.flatMap_cons, List.flatten_cons, unescape_of_escape, escape_append, ih hrest]

/-! ## Tags -/

inductive Token
  | char (c : Char)
  /-- With what stands between `<` and `>`. -/
  | tag (text : List Char)
  deriving DecidableEq, Repr

namespace Token

def write : Token → List Char
  | char c => [c]
  | tag text => '<' :: (text ++ ['>'])

def isTag : Token → Bool
  | char _ => false
  | tag _ => true

def char? : Token → Option Char
  | char c => some c
  | tag _ => none

def tag? : Token → Option (List Char)
  | char _ => none
  | tag text => some text

/-- It can be told from what stands around it. -/
def Clear : Token → Prop
  | char c => c ≠ '<'
  | tag text => '>' ∉ text

end Token

def write (ts : List Token) : List Char := ts.flatMap Token.write

/-- A text as tokens. -/
def plain (text : List Char) : List Token := text.map .char

/-- What is written, told apart; within a tag, what of it has been read. -/
def scan : Option (List Char) → List Char → List Token
  | _, [] => []
  | none, c :: rest => if c = '<' then scan (some []) rest else .char c :: scan none rest
  | some text, c :: rest =>
    if c = '>' then .tag text :: scan none rest else scan (some (text ++ [c])) rest

theorem scan_tag {text : List Char} (h : '>' ∉ text) (read rest : List Char) :
    scan (some read) (text ++ '>' :: rest) = .tag (read ++ text) :: scan none rest := by
  induction text generalizing read with
  | nil => simp [scan]
  | cons c text ih =>
    rw [List.mem_cons, not_or] at h
    rw [List.cons_append, scan, if_neg (Ne.symm h.1), ih h.2]
    simp

theorem scan_write {ts : List Token} (h : ∀ t ∈ ts, t.Clear) : scan none (write ts) = ts := by
  induction ts with
  | nil => rfl
  | cons t ts ih =>
    obtain ⟨ht, hts⟩ := List.forall_mem_cons.mp h
    rw [write, List.flatMap_cons, ← write]
    cases t with
    | char c =>
      rw [Token.write, List.singleton_append, scan, if_neg ht, ih hts]
    | tag text =>
      rw [Token.write, List.cons_append, List.append_assoc, List.singleton_append, scan,
        if_pos rfl, scan_tag ht, ih hts]
      rfl

def chars (ts : List Token) : List Char := ts.filterMap Token.char?

def tags (ts : List Token) : List (List Char) := ts.filterMap Token.tag?

@[simp] theorem write_append (xs ys : List Token) : write (xs ++ ys) = write xs ++ write ys :=
  List.flatMap_append

@[simp] theorem chars_append (xs ys : List Token) : chars (xs ++ ys) = chars xs ++ chars ys :=
  List.filterMap_append

@[simp] theorem tags_append (xs ys : List Token) : tags (xs ++ ys) = tags xs ++ tags ys :=
  List.filterMap_append

@[simp] theorem write_plain (text : List Char) : write (plain text) = text := by
  induction text with
  | nil => rfl
  | cons c text ih => exact congrArg (c :: ·) ih

@[simp] theorem chars_plain (text : List Char) : chars (plain text) = text := by
  simp [chars, plain, List.filterMap_map, Function.comp_def, Token.char?]

@[simp] theorem tags_plain (text : List Char) : tags (plain text) = [] := by
  simp [tags, plain, List.filterMap_map, Function.comp_def, Token.tag?]

theorem clear_of_parts {ts : List Token} (hchars : '<' ∉ chars ts)
    (htags : ∀ text ∈ tags ts, '>' ∉ text) : ∀ t ∈ ts, t.Clear := by
  intro t ht
  cases t with
  | char c =>
    rintro rfl
    exact hchars (List.mem_filterMap.mpr ⟨_, ht, rfl⟩)
  | tag text => exact htags text (List.mem_filterMap.mpr ⟨_, ht, rfl⟩)

/-- The texts before, between and behind the tags. -/
def runs (ts : List Token) : List (List Char) := (ts.splitOnP Token.isTag).map chars

/-- What is read of text among tags. -/
def readText (ts : List Token) : List Char := (runs ts).flatMap (unescape 0)

theorem runs_tag (xs : List Token) (text : List Char) (ys : List Token) :
    runs (xs ++ .tag text :: ys) = runs xs ++ runs ys := by
  rw [runs, List.splitOnP_append_cons xs ys rfl, List.map_append]
  rfl

theorem runs_char (c : Char) (ts : List Token) :
    runs (.char c :: ts) = (runs ts).modifyHead (List.cons c) := by
  rw [runs, List.splitOnP_cons_eq_if_modifyHead, if_neg (by simp [Token.isTag]), runs]
  cases ts.splitOnP Token.isTag <;> rfl

theorem runs_ne_nil (ts : List Token) : runs ts ≠ [] := by
  simp [runs]

theorem flatten_runs (ts : List Token) : (runs ts).flatten = chars ts := by
  induction ts with
  | nil => rfl
  | cons t ts ih =>
    cases t with
    | char c =>
      obtain ⟨run, rest, hruns⟩ := List.exists_cons_of_ne_nil (runs_ne_nil ts)
      rw [hruns] at ih
      rw [runs_char, hruns]
      exact congrArg (c :: ·) ih
    | tag text =>
      rw [← List.nil_append (Token.tag text :: ts), runs_tag, List.flatten_append, ih]
      rfl

theorem runs_plain_append (text : List Char) (ts : List Token) :
    runs (plain text ++ ts) = (runs ts).modifyHead (text ++ ·) := by
  induction text with
  | nil => cases hruns : runs ts <;> exact hruns
  | cons c text ih =>
    have hcons : plain (c :: text) ++ ts = .char c :: (plain text ++ ts) := rfl
    rw [hcons, runs_char, ih]
    cases runs ts <;> rfl

/-! ## Text beside text -/

theorem readText_plain_append (text : List Char) (ts : List Token) :
    ∃ run rest, runs ts = run :: rest ∧
      readText (plain text ++ ts) = unescape 0 (text ++ run) ++ rest.flatMap (unescape 0) := by
  obtain ⟨run, rest, hruns⟩ := List.exists_cons_of_ne_nil (runs_ne_nil ts)
  refine ⟨run, rest, hruns, ?_⟩
  rw [readText, runs_plain_append, hruns]
  rfl

theorem readText_escape_append (text : List Char) (ts : List Token) :
    readText (plain (escape text) ++ ts) = text ++ readText ts := by
  obtain ⟨run, rest, hruns, hread⟩ := readText_plain_append (escape text) ts
  rw [hread, unescape_escape, readText, hruns, List.flatMap_cons, List.append_assoc]

/-- No part of a reference. -/
def Stop (c : Char) : Prop := c ≠ '&' ∧ c ≠ ';' ∧ ∀ r ∈ references, c ∉ r.2

instance (c : Char) : Decidable (Stop c) :=
  inferInstanceAs (Decidable (c ≠ '&' ∧ c ≠ ';' ∧ ∀ r ∈ references, c ∉ r.2))

theorem isPrefixOf_stop {c : Char} {name : List Char} (h : c ∉ name) (text rest : List Char) :
    name.isPrefixOf (text ++ c :: rest) = name.isPrefixOf text := by
  induction name generalizing text with
  | nil => rfl
  | cons d name ih =>
    rw [List.mem_cons, not_or] at h
    cases text with
    | nil => simp [List.isPrefixOf, Ne.symm h.1]
    | cons e text => simp [List.isPrefixOf, ih h.2]

theorem prefix_of_find? {text : List Char} {r : Char × List Char}
    (h : references.find? (fun r => r.2.isPrefixOf text) = some r) : r.2 <+: text := by
  have hprefix := List.find?_some h
  exact List.isPrefixOf_iff_prefix.mp hprefix

theorem reference?_stop {c : Char} (h : Stop c) (text rest : List Char) :
    reference? (text ++ c :: rest) = reference? text := by
  obtain ⟨-, hsemi, hnames⟩ := h
  have hfind : references.find? (fun r => r.2.isPrefixOf (text ++ c :: rest)) =
      references.find? fun r => r.2.isPrefixOf text := by
    apply List.find?_congr
    intro r hr
    exact isPrefixOf_stop (hnames r hr) text rest
  rw [reference?, reference?, hfind]
  cases hfound : references.find? fun r => r.2.isPrefixOf text with
  | none => rfl
  | some r =>
    obtain ⟨behind, rfl⟩ := prefix_of_find? hfound
    cases behind with
    | nil => simp [hsemi]
    | cons d behind => simp

theorem reference?_length {text : List Char} {d : Char} {n : Nat}
    (h : reference? text = some (d, n)) : n ≤ text.length := by
  obtain ⟨r, hfound, hr⟩ := Option.map_eq_some_iff.mp h
  obtain ⟨behind, rfl⟩ := prefix_of_find? hfound
  obtain ⟨-, rfl⟩ := Prod.mk.inj hr
  cases behind with
  | nil => simp
  | cons d behind =>
    rw [List.length_append, List.length_cons]
    split <;> omega

theorem unescape_stop {c : Char} (h : Stop c) {skip : Nat} {text : List Char}
    (hskip : skip ≤ text.length) (rest : List Char) :
    unescape skip (text ++ c :: rest) = unescape skip text ++ c :: unescape 0 rest := by
  induction text generalizing skip with
  | nil =>
    obtain rfl := Nat.le_zero.mp hskip
    exact unescape_cons h.1 rest
  | cons d text ih =>
    cases skip with
    | succ skip => exact ih (Nat.le_of_succ_le_succ hskip)
    | zero =>
      by_cases hd : d = '&'
      · subst hd
        cases hread : reference? text with
        | none =>
          have hlong := (reference?_stop h text rest).trans hread
          rw [List.cons_append, unescape_ampersand hlong, unescape_ampersand hread,
            ih (Nat.zero_le _)]
          rfl
        | some found =>
          have hlong := (reference?_stop h text rest).trans hread
          rw [List.cons_append, unescape_reference hlong, unescape_reference hread,
            ih (reference?_length hread)]
          rfl
      · rw [List.cons_append, unescape_cons hd, unescape_cons hd, ih (Nat.zero_le _)]
        rfl

/-- A character that is no part of a reference keeps apart what stands around it. -/
theorem readText_stop {c : Char} (h : Stop c) (xs ys : List Token) :
    readText (xs ++ .char c :: ys) = readText xs ++ c :: readText ys := by
  have hpre : ∀ pre, readText (plain pre ++ (xs ++ .char c :: ys)) =
      readText (plain pre ++ xs) ++ c :: readText ys := by
    induction xs with
    | nil =>
      intro pre
      obtain ⟨run, rest, hruns, hread⟩ := readText_plain_append (pre ++ [c]) ys
      have hleft : plain pre ++ ([] ++ .char c :: ys) = plain (pre ++ [c]) ++ ys := by
        simp [plain]
      have hpre : readText (plain pre ++ []) = unescape 0 pre := by
        have hone : runs (plain pre ++ []) = [pre ++ []] := runs_plain_append pre []
        rw [readText, hone, List.append_nil]
        exact List.append_nil _
      rw [hleft, hread, hpre, List.append_assoc, List.singleton_append,
        unescape_stop h (Nat.zero_le _), readText, hruns]
      simp
    | cons t xs ih =>
      intro pre
      cases t with
      | char d =>
        have hshift : ∀ ts, plain pre ++ .char d :: ts = plain (pre ++ [d]) ++ ts := by
          simp [plain]
        rw [List.cons_append, hshift, hshift, ih]
      | tag text =>
        have hsplit : ∀ ts, readText (plain pre ++ .tag text :: ts) =
            readText (plain pre) ++ readText ts := by
          intro ts
          rw [readText, runs_tag, List.flatMap_append]
          rfl
        have hrest := ih []
        rw [List.cons_append, hsplit, hsplit, List.append_assoc]
        exact congrArg _ hrest
  exact hpre []

/-! ## Matches between tags -/

/-- The text begins with `search`, `same` being what counts as a character of it. -/
def beginsWith (same : Char → Char → Bool) : List Char → List Char → Bool
  | [], _ => true
  | _ :: _, [] => false
  | s :: search, c :: text => same s c && beginsWith same search text

theorem length_le_of_beginsWith {same : Char → Char → Bool} {search text : List Char}
    (h : beginsWith same search text = true) : search.length ≤ text.length := by
  induction search generalizing text with
  | nil => exact Nat.zero_le _
  | cons s search ih =>
    cases text with
    | nil => cases h
    | cons c text =>
      rw [beginsWith, Bool.and_eq_true] at h
      exact Nat.succ_le_succ (ih h.2)

section wrapMatches
variable {β γ : Type} (same : Char → Char → Bool) (search : List Char)

/-- A text with every match put between `before` and `after`, from left to right; `left`
characters of the match under way are still to come. -/
def wrapMatches (put : Char → β) (before after : List β) : Nat → List Char → List β
  | _, [] => []
  | left, c :: rest =>
    let starts := left = 0 ∧ beginsWith same search (c :: rest)
    let left := if starts then search.length else left
    (if starts then before else []) ++ put c ::
      ((if left = 1 then after else []) ++ wrapMatches put before after (left - 1) rest)

variable {same search} {put : Char → β} {before after : List β}

theorem flatMap_wrapMatches {f : β → List γ} {g : Char → γ} (h : ∀ c, f (put c) = [g c])
    (left : Nat) (text : List Char) :
    (wrapMatches same search put before after left text).flatMap f =
      wrapMatches same search g (before.flatMap f) (after.flatMap f) left text := by
  induction text generalizing left with
  | nil => rfl
  | cons c text ih =>
    simp only [wrapMatches, List.flatMap_append, List.flatMap_cons, h, ih, apply_ite,
      List.flatMap_nil, List.singleton_append]

end wrapMatches

section
variable {same : Char → Char → Bool} {search opening closing : List Char}

/-- The tags stand in pairs. -/
def Paired (opening closing : List Char) : List (List Char) → Bool
  | [] => true
  | [_] => false
  | o :: c :: rest => o = opening && c = closing && Paired opening closing rest

theorem Paired.append {xs ys : List (List Char)} (hx : Paired opening closing xs = true)
    (hy : Paired opening closing ys = true) : Paired opening closing (xs ++ ys) = true := by
  fun_induction Paired opening closing xs with
  | case1 => exact hy
  | case2 => cases hx
  | case3 o c rest ih =>
    simp only [Bool.and_eq_true] at hx
    simp only [List.cons_append, Paired, Bool.and_eq_true]
    exact ⟨hx.1, ih hx.2⟩

theorem Paired.mem {xs : List (List Char)} (h : Paired opening closing xs = true) :
    ∀ x ∈ xs, x = opening ∨ x = closing := by
  fun_induction Paired opening closing xs with
  | case1 => simp
  | case2 => cases h
  | case3 o c rest ih =>
    simp only [Bool.and_eq_true, decide_eq_true_eq] at h
    rw [List.forall_mem_cons, List.forall_mem_cons]
    exact ⟨.inl h.1.1, .inr h.1.2, ih h.2⟩

theorem chars_wrapMatches (left : Nat) (text : List Char) :
    chars (wrapMatches same search .char [.tag opening] [.tag closing] left text) = text := by
  induction text generalizing left with
  | nil => rfl
  | cons c text ih =>
    unfold chars at ih ⊢
    simp only [wrapMatches, List.filterMap_append, List.filterMap_cons, ih, Token.char?,
      apply_ite, List.filterMap_nil]
    split <;> split <;> rfl

/-- With a match under way its closing tag comes first. -/
theorem tags_wrapMatches (h : search ≠ []) {left : Nat} {text : List Char}
    (hleft : left ≤ text.length) :
    ∃ pairs, Paired opening closing pairs = true ∧
      tags (wrapMatches same search .char [.tag opening] [.tag closing] left text) =
        if left = 0 then pairs else closing :: pairs := by
  induction text generalizing left with
  | nil =>
    obtain rfl := Nat.le_zero.mp hleft
    exact ⟨[], rfl, rfl⟩
  | cons c text ih =>
    have hrest : ∀ n, n ≤ (c :: text).length → n ≠ 0 → ∃ pairs,
        Paired opening closing pairs = true ∧
          tags ((if n = 1 then [.tag closing] else []) ++
            wrapMatches same search .char [.tag opening] [.tag closing] (n - 1) text) =
          closing :: pairs := by
      intro n hn hpos
      have hbehind : n - 1 ≤ text.length := by
        rw [List.length_cons] at hn
        omega
      obtain ⟨pairs, hpairs, htags⟩ := ih hbehind
      refine ⟨pairs, hpairs, ?_⟩
      unfold tags at htags ⊢
      rw [List.filterMap_append, htags]
      by_cases hone : n = 1
      · simp [hone, Token.tag?]
      · have hmore : n - 1 ≠ 0 := by omega
        simp [hone, hmore]
    by_cases hstarts : left = 0 ∧ beginsWith same search (c :: text) = true
    · obtain ⟨rfl, hmatch⟩ := hstarts
      obtain ⟨pairs, hpairs, htags⟩ := hrest search.length (length_le_of_beginsWith hmatch)
        (by simpa using h)
      refine ⟨opening :: closing :: pairs, by simpa [Paired] using hpairs, ?_⟩
      simp only [wrapMatches, hmatch, and_self, if_true]
      exact congrArg (opening :: ·) htags
    · by_cases hzero : left = 0
      · subst hzero
        obtain ⟨pairs, hpairs, htags⟩ := ih (Nat.zero_le _)
        have hplain : beginsWith same search (c :: text) = false := by simpa using hstarts
        refine ⟨pairs, hpairs, ?_⟩
        simp only [wrapMatches, hplain, Bool.false_eq_true, and_false, if_false]
        exact htags
      · obtain ⟨pairs, hpairs, htags⟩ := hrest left hleft hzero
        refine ⟨pairs, hpairs, ?_⟩
        simp only [wrapMatches, hzero, false_and, if_false]
        exact htags

end

end Markup
