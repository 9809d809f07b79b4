import BacnetBridge.LogViewer
import BacnetBridge.Markup

/-! `app.js`: the HTML that the log viewer writes, and what a browser reads of it: its
tags and references, and not what it makes of carriage returns and NULs. -/
namespace BacnetBridge

open Markup

/-! ## What is written -/

def escapeHtml (text : String) : List Char := escape text.toList

def markTag : List Char := "mark class=\"bg-yellow-300 text-gray-900 rounded px-0.5\"".toList

/-- Every character of `search` that means something in a pattern is escaped, so that it
is matched as it stands; which characters are the same for the flag `i` is given. -/
def highlightText (same : Char → Char → Bool) (text : String) (search : List Char) : List Char :=
  wrapMatches same search id
    "<mark class=\"bg-yellow-300 text-gray-900 rounded px-0.5\">".toList "</mark>".toList 0
    (escapeHtml text)

def LogEntry.colorClass (e : LogEntry) : String :=
  if e.level = "ERROR" then "text-red-400"
  else if e.level = "WARN" then "text-yellow-400"
  else if e.level = "INFO" then "text-gray-100"
  else "text-gray-400"

def searchedHtml (same : Char → Char → Bool) (searchText : List Char) (text : String) :
    List Char :=
  if searchText.isEmpty then escapeHtml text else highlightText same text searchText

def LogEntry.html (same : Char → Char → Bool) (searchText : List Char) (e : LogEntry) :
    List Char :=
  "<div class=\"".toList ++ e.colorClass.toList ++ "\">[".toList ++ escapeHtml e.timestamp ++
    "] [".toList ++ escapeHtml e.level ++ "] [".toList ++ searchedHtml same searchText e.target ++
    "] ".toList ++ searchedHtml same searchText e.message ++ "</div>".toList

def LogView.html (same : Char → Char → Bool) (searchText : List Char) : LogView → List Char
  | .waiting => "<div class=\"text-gray-500\">Waiting for log entries...</div>".toList
  | .noMatch => "<div class=\"text-gray-500\">No log entries match filters</div>".toList
  | .lines entries => entries.flatMap (LogEntry.html same searchText)

/-! ## What is read -/

/-- A `div` with parts of its text marked. -/
structure Line where
  opening : List Char
  content : List Token
  deriving DecidableEq, Repr

def Line.text (l : Line) : List Char := readText l.content

def readLine : List Token → Option Line
  | .tag opening :: content =>
    if Paired markTag "/mark".toList (tags content) then some ⟨opening, content⟩ else none
  | _ => none

/-- The lines that a page consists of, if it does. -/
def readPage (html : List Char) : Option (List Line) :=
  let chunks := (scan none html).splitOnP fun t => t = .tag "/div".toList
  if chunks.getLast? = some [] then chunks.dropLast.mapM readLine else none

/-! ## Lines as tokens -/

variable (same : Char → Char → Bool) (searchText : List Char)

def divTag (colorClass : String) : List Char :=
  "div class=\"".toList ++ colorClass.toList ++ "\"".toList

def searchedTokens (text : String) : List Token :=
  if searchText.isEmpty then plain (escapeHtml text)
  else wrapMatches same searchText .char [.tag markTag] [.tag "/mark".toList] 0 (escapeHtml text)

/-- What stands before the target. -/
def LogEntry.head (e : LogEntry) : List Char :=
  "[".toList ++ e.timestamp.toList ++ "] [".toList ++ e.level.toList ++ "] [".toList

def LogEntry.content (e : LogEntry) : List Token :=
  plain (escape e.head) ++ (searchedTokens same searchText e.target ++
    .char ']' :: (plain (escape " ".toList) ++ searchedTokens same searchText e.message))

def LogEntry.line (e : LogEntry) : Line := ⟨divTag e.colorClass, e.content same searchText⟩

def Line.tokens (l : Line) : List Token := .tag l.opening :: l.content

variable {same searchText}

theorem escape_literals : escape "[".toList = "[".toList ∧ escape "] [".toList = "] [".toList ∧
    escape " ".toList = " ".toList := ⟨rfl, rfl, rfl⟩

theorem write_searchedTokens (text : String) :
    write (searchedTokens same searchText text) = searchedHtml same searchText text := by
  have hopen : write [.tag markTag] =
      "<mark class=\"bg-yellow-300 text-gray-900 rounded px-0.5\">".toList := by decide
  have hclose : write [.tag "/mark".toList] = "</mark>".toList := by decide
  unfold searchedTokens searchedHtml
  split
  · exact write_plain _
  · rw [highlightText, ← hopen, ← hclose]
    exact flatMap_wrapMatches (f := Token.write) (g := id) (fun _ => rfl) 0 _

theorem write_divTag (colorClass : String) : write [.tag (divTag colorClass)] =
    "<div class=\"".toList ++ colorClass.toList ++ "\">".toList := by
  have hopen : "<div class=\"".toList = '<' :: "div class=\"".toList := by decide
  have hclose : "\">".toList = "\"".toList ++ ['>'] := by decide
  have htag : write [.tag (divTag colorClass)] =
      '<' :: ("div class=\"".toList ++ colorClass.toList ++ "\"".toList ++ ['>']) :=
    List.append_nil _
  rw [hopen, hclose, htag, List.cons_append, List.cons_append, List.append_assoc _ _ ['>']]

theorem LogEntry.escape_head (e : LogEntry) : escape e.head = "[".toList ++
    escapeHtml e.timestamp ++ "] [".toList ++ escapeHtml e.level ++ "] [".toList := by
  obtain ⟨hopen, hnext, -⟩ := escape_literals
  rw [head, escape_append, escape_append, escape_append, escape_append, hopen, hnext]
  rfl

theorem LogEntry.line_tokens (e : LogEntry) : (e.line same searchText).tokens =
    [.tag (divTag e.colorClass)] ++ (plain (escape e.head) ++
      (searchedTokens same searchText e.target ++ ([.char ']'] ++ (plain (escape " ".toList) ++
        searchedTokens same searchText e.message)))) := rfl

theorem LogEntry.html_eq (e : LogEntry) :
    e.html same searchText = write ((e.line same searchText).tokens ++ [.tag "/div".toList]) := by
  have hquote : "\">[".toList = "\">".toList ++ "[".toList := by decide
  have hend : write [.tag "/div".toList] = "</div>".toList := by decide
  have hbetween : "] ".toList = write [.char ']'] ++ escape " ".toList := by decide
  rw [line_tokens]
  unfold html
  simp only [write_append, write_plain, write_searchedTokens, write_divTag, escape_head,
    List.append_assoc, hquote, hend, hbetween]

/-! ## Reading lines -/

/-- A line that can be told from the page around it. -/
structure Line.Sound (l : Line) : Prop where
  opening : '>' ∉ l.opening ∧ l.opening ≠ "/div".toList
  chars : '<' ∉ chars l.content
  tags : Paired markTag "/mark".toList (tags l.content) = true

theorem Line.Sound.mem_tags {l : Line} (h : l.Sound) {text : List Char}
    (htext : text ∈ Markup.tags l.tokens) : '>' ∉ text ∧ text ≠ "/div".toList := by
  have hmark : '>' ∉ markTag ∧ markTag ≠ "/div".toList := by decide
  have hend : '>' ∉ "/mark".toList ∧ "/mark".toList ≠ "/div".toList := by decide
  rcases List.mem_cons.mp htext with rfl | hcontent
  · exact h.opening
  · rcases Paired.mem h.tags text hcontent with rfl | rfl
    · exact hmark
    · exact hend

theorem readLine_tokens {l : Line} (h : l.Sound) : readLine l.tokens = some l := by
  rw [Line.tokens, readLine, if_pos h.tags]

theorem scan_lines {lines : List Line} (h : ∀ l ∈ lines, l.Sound) :
    scan none (write (lines.flatMap fun l => l.tokens ++ [.tag "/div".toList])) =
      lines.flatMap fun l => l.tokens ++ [.tag "/div".toList] := by
  apply scan_write
  have hend : '>' ∉ "/div".toList := by decide
  intro t ht
  obtain ⟨l, hl, ht⟩ := List.mem_flatMap.mp ht
  have hsound := h l hl
  have hclear : ∀ t ∈ l.tokens, t.Clear :=
    clear_of_parts hsound.chars fun text htext => (hsound.mem_tags htext).1
  rcases List.mem_append.mp ht with ht | ht
  · exact hclear t ht
  · obtain rfl := List.mem_singleton.mp ht
    exact hend

theorem splitOnP_lines {lines : List Line} (h : ∀ l ∈ lines, l.Sound) :
    (lines.flatMap fun l => l.tokens ++ [.tag "/div".toList]).splitOnP
        (fun t => t = .tag "/div".toList) =
      lines.map Line.tokens ++ [[]] := by
  induction lines with
  | nil => rfl
  | cons l lines ih =>
    obtain ⟨hl, hlines⟩ := List.forall_mem_cons.mp h
    have hinside : ∀ t ∈ l.tokens, decide (t = .tag "/div".toList) = false := by
      intro t ht
      rw [decide_eq_false_iff_not]
      rintro rfl
      exact (hl.mem_tags (List.mem_filterMap.mpr ⟨_, ht, rfl⟩)).2 rfl
    rw [List.flatMap_cons, List.append_assoc, List.singleton_append,
      List.splitOnP_append_cons_of_forall_mem hinside _ (by simp), ih hlines]
    rfl

theorem readPage_lines {lines : List Line} (h : ∀ l ∈ lines, l.Sound) :
    readPage (write (lines.flatMap fun l => l.tokens ++ [.tag "/div".toList])) = some lines := by
  have hread : (lines.map Line.tokens).mapM readLine = some lines := by
    induction lines with
    | nil => rfl
    | cons l lines ih =>
      obtain ⟨hl, hlines⟩ := List.forall_mem_cons.mp h
      simp [readLine_tokens hl, ih hlines]
  simp only [readPage, scan_lines h, splitOnP_lines h]
  simp [hread]

/-! ## What the viewer shows -/

/-- What is read of a text that is searched. -/
def searched (same : Char → Char → Bool) (searchText : List Char) (text : String) : List Char :=
  readText (searchedTokens same searchText text)

theorem chars_searchedTokens (text : String) :
    chars (searchedTokens same searchText text) = escapeHtml text := by
  unfold searchedTokens
  split
  · exact chars_plain _
  · exact chars_wrapMatches 0 _

theorem tags_searchedTokens (text : String) :
    Paired markTag "/mark".toList (tags (searchedTokens same searchText text)) = true := by
  unfold searchedTokens
  split
  · rw [tags_plain]
    rfl
  · rename_i hsearch
    have hne : searchText ≠ [] := by simpa using hsearch
    obtain ⟨pairs, hpairs, htags⟩ := tags_wrapMatches hne (Nat.zero_le _)
    exact (congrArg _ htags).trans hpairs

/-- An entry as it would be written in plain text. -/
def LogEntry.text (e : LogEntry) : List Char :=
  e.head ++ (e.target.toList ++ ("] ".toList ++ e.message.toList))

theorem LogEntry.chars_content (e : LogEntry) :
    chars (e.content same searchText) = escape e.text := by
  have hbetween : escape "] ".toList = chars [.char ']'] ++ escape " ".toList := by decide
  have hcontent : e.content same searchText = plain (escape e.head) ++
      (searchedTokens same searchText e.target ++ ([.char ']'] ++
        (plain (escape " ".toList) ++ searchedTokens same searchText e.message))) := rfl
  rw [hcontent, text, escape_append, escape_append, escape_append, hbetween]
  simp only [chars_append, chars_plain, chars_searchedTokens, escapeHtml, List.append_assoc]

theorem LogEntry.tags_content (e : LogEntry) :
    tags (e.content same searchText) = tags (searchedTokens same searchText e.target) ++
      tags (searchedTokens same searchText e.message) := by
  have hcontent : e.content same searchText = plain (escape e.head) ++
      (searchedTokens same searchText e.target ++ (plain [']'] ++
        (plain (escape " ".toList) ++ searchedTokens same searchText e.message))) := rfl
  rw [hcontent]
  simp only [tags_append, tags_plain, List.nil_append]

theorem divTag_sound (e : LogEntry) :
    '>' ∉ divTag e.colorClass ∧ divTag e.colorClass ≠ "/div".toList := by
  have hclasses : ∀ c ∈ ["text-red-400", "text-yellow-400", "text-gray-100", "text-gray-400"],
      '>' ∉ divTag c ∧ divTag c ≠ "/div".toList := by decide
  apply hclasses
  unfold LogEntry.colorClass
  split_ifs <;> simp

theorem LogEntry.line_sound (e : LogEntry) : (e.line same searchText).Sound where
  opening := divTag_sound e
  chars := by
    rw [line, chars_content]
    exact lt_not_mem_escape _
  tags := by
    rw [line, tags_content]
    exact Paired.append (tags_searchedTokens _) (tags_searchedTokens _)

theorem LogEntry.line_text (e : LogEntry) : (e.line same searchText).text =
    e.head ++ (searched same searchText e.target ++
      ("] ".toList ++ searched same searchText e.message)) := by
  have hstop : Stop ']' := by decide
  have hbetween : "] ".toList = ']' :: " ".toList := by decide
  rw [Line.text, line, content, readText_escape_append, readText_stop hstop,
    readText_escape_append, hbetween]
  rfl

/-- A view line by line: its tag and what it says. -/
def LogView.said (same : Char → Char → Bool) (searchText : List Char) :
    LogView → List (List Char × List Char)
  | .waiting => [(divTag "text-gray-500", "Waiting for log entries...".toList)]
  | .noMatch => [(divTag "text-gray-500", "No log entries match filters".toList)]
  | .lines entries => entries.map fun e => (divTag e.colorClass,
      e.head ++ (searched same searchText e.target ++
        ("] ".toList ++ searched same searchText e.message)))

theorem readPage_entries (entries : List LogEntry) :
    readPage ((LogView.lines entries).html same searchText) =
      some (entries.map fun e => e.line same searchText) := by
  have hlines : ∀ l ∈ entries.map (fun e => e.line same searchText), l.Sound := by
    intro l hl
    obtain ⟨e, -, rfl⟩ := List.mem_map.mp hl
    exact e.line_sound
  have hwrite : (LogView.lines entries).html same searchText =
      write ((entries.map fun e => e.line same searchText).flatMap fun l =>
        l.tokens ++ [.tag "/div".toList]) := by
    rw [List.flatMap_map, write, List.flatMap_assoc]
    exact congrArg (entries.flatMap ·) (funext fun e => e.html_eq)
  rw [hwrite, readPage_lines hlines]

theorem readPage_notices :
    (readPage "<div class=\"text-gray-500\">Waiting for log entries...</div>".toList).map
        (·.map fun l => (l.opening, l.text)) =
      some [(divTag "text-gray-500", "Waiting for log entries...".toList)] ∧
    (readPage "<div class=\"text-gray-500\">No log entries match filters</div>".toList).map
        (·.map fun l => (l.opening, l.text)) =
      some [(divTag "text-gray-500", "No log entries match filters".toList)] := by
  constructor <;> decide

/-- The viewer's `innerHTML`, written with the search text that was there at the time. -/
def LogViewer.innerHtml (lower : String → String) (same : Char → Char → Bool) (s : LogViewer) :
    List Char := s.view.html same (lower s.filter.search).toList

/-- Whatever is logged and searched for, the viewer consists of one line for each entry
that it shows, in their order, each in the colour of its level, with no elements in it but
marks, opened and closed in turn; a line has the timestamp and the level as they are, and
the target and the message as they are read among the marks. -/
theorem log_adds_no_markup (lower : String → String) (same : Char → Char → Bool)
    (s : LogViewer) :
    (readPage (s.innerHtml lower same)).map (·.map fun l => (l.opening, l.text)) =
      some (s.view.said same (lower s.filter.search).toList) := by
  unfold LogViewer.innerHtml
  cases s.view with
  | waiting => exact readPage_notices.1
  | noMatch => exact readPage_notices.2
  | lines entries =>
    rw [readPage_entries, Option.map_some, List.map_map, LogView.said]
    apply congrArg some
    apply List.map_congr_left
    intro e _
    exact congrArg (divTag e.colorClass, ·) e.line_text

/-! ## Where a match cuts a character -/

/-- No match begins or ends within the form of a character: each piece that the matches
cut the escaped text into is the form of a text. -/
def Uncut (same : Char → Char → Bool) (searchText : List Char) (text : String) : Prop :=
  ∀ run ∈ runs (searchedTokens same searchText text), ∃ t, run = escape t

theorem searched_eq_iff (text : String) :
    searched same searchText text = text.toList ↔ Uncut same searchText text :=
  pieces_read_iff ((flatten_runs _).trans (chars_searchedTokens text))

theorem length_le_searched (text : String) :
    text.toList.length ≤ (searched same searchText text).length :=
  length_le_pieces ((flatten_runs _).trans (chars_searchedTokens text))

theorem LogEntry.line_text_eq_iff (e : LogEntry) : (e.line same searchText).text = e.text ↔
    Uncut same searchText e.target ∧ Uncut same searchText e.message := by
  have htarget : e.target.toList.length ≤ (searched same searchText e.target).length :=
    length_le_searched e.target
  have hmessage : e.message.toList.length ≤ (searched same searchText e.message).length :=
    length_le_searched e.message
  rw [line_text, text, List.append_cancel_left_eq, ← searched_eq_iff, ← searched_eq_iff]
  constructor
  · intro hsame
    have hlengths := congrArg List.length hsame
    simp only [List.length_append] at hlengths
    obtain ⟨hfirst, hrest⟩ := List.append_inj hsame (by omega)
    exact ⟨hfirst, List.append_cancel_left hrest⟩
  · rintro ⟨hfirst, hsecond⟩
    rw [hfirst, hsecond]

/-- What the lines of the viewer say is what was logged, exactly if no match cuts the form
of a character in a target or a message. -/
theorem search_shows_log_iff (same : Char → Char → Bool) (searchText : List Char)
    (entries : List LogEntry) :
    (readPage ((LogView.lines entries).html same searchText)).map (·.map Line.text) =
        some (entries.map LogEntry.text) ↔
      ∀ e ∈ entries, Uncut same searchText e.target ∧ Uncut same searchText e.message := by
  rw [readPage_entries, Option.map_some, List.map_map, Option.some_inj, List.map_inj_left]
  simp only [Function.comp_apply, LogEntry.line_text_eq_iff]

/-- The search finds the name that the ampersand is written by. -/
example : searched (fun a b => a = b) "amp".toList "Tom & Jerry amplified" =
    "Tom &amp; Jerry amplified".toList := by decide

end BacnetBridge
