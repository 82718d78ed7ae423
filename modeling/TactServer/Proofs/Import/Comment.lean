import TactServer.Import.Statement
import TactServer.Proofs.Text.Line
import TactServer.Proofs.Text.Utf16

/-!
# Which characters are comment

Each character of a text belongs to the code, to a string literal or to a comment. Blanking puts
blanks in the place of the characters of comments, line breaks apart, and leaves all others as they
are. So the blanked text depends on a comment only by its layout.
-/

set_option autoImplicit false

namespace TactServer

/-- What a reading of a text tells: the region of each character, and the region behind them. A
mark of a comment or a literal belongs to what it opens or closes. -/
structure Scan where
  marks : List (Char × Region)
  region : Region
  deriving DecidableEq

def Scan.push (c : Char) (region : Region) (scan : Scan) : Scan :=
  { scan with marks := (c, region) :: scan.marks }

def scanFrom : Region → List Char → Scan
  | region, [] => ⟨[], region⟩
  | .code, c :: rest =>
    match c, rest with
    | '/', '/' :: rest =>
      ((scanFrom .lineComment rest).push '/' .lineComment).push '/' .lineComment
    | '/', '*' :: rest =>
      ((scanFrom .blockComment rest).push '*' .blockComment).push '/' .blockComment
    | '"', rest => (scanFrom .literal rest).push '"' .literal
    | c, rest => (scanFrom .code rest).push c .code
  | .literal, c :: rest =>
    match c, rest with
    | '"', rest => (scanFrom .code rest).push '"' .literal
    | '\n', rest => (scanFrom .code rest).push '\n' .code
    | '\\', escaped :: rest =>
      if escaped = '\n' then ((scanFrom .code rest).push '\n' .code).push '\\' .literal
      else ((scanFrom .literal rest).push escaped .literal).push '\\' .literal
    | c, rest => (scanFrom .literal rest).push c .literal
  | .lineComment, c :: rest =>
    if c = '\n' then (scanFrom .code rest).push '\n' .code
    else (scanFrom .lineComment rest).push c .lineComment
  | .blockComment, c :: rest =>
    match c, rest with
    | '*', '/' :: rest => ((scanFrom .code rest).push '/' .blockComment).push '*' .blockComment
    | '\n', rest => (scanFrom .blockComment rest).push '\n' .blockComment
    | c, rest => (scanFrom .blockComment rest).push c .blockComment

def Region.isComment : Region → Bool
  | .code | .literal => false
  | .lineComment | .blockComment => true

def blankOver (c : Char) : List Char := if c = '\n' then ['\n'] else blankChar c

def shown (mark : Char × Region) : List Char :=
  if mark.2.isComment then blankOver mark.1 else [mark.1]

theorem scan_chars (region : Region) (text : List Char) :
    (scanFrom region text).marks.map Prod.fst = text := by
  fun_induction blankFrom region text <;> simp_all [scanFrom, Scan.push]

/-- The blanked text has the characters of comments blanked out, and no others. -/
theorem blank_eq_shown (region : Region) (text : List Char) :
    blankFrom region text = (scanFrom region text).marks.flatMap shown := by
  have slash : blankChar '/' = [' '] := by decide
  have star : blankChar '*' = [' '] := by decide
  fun_induction blankFrom region text <;>
    simp_all [scanFrom, Scan.push, shown, blankOver, Region.isComment]

/-! ## Steps -/

def Region.pairs (region : Region) (c : Char) (next : Option Char) : Bool :=
  match region with
  | .code => c == '/' && (next == some '/' || next == some '*')
  | .literal => c == '\\' && next.any (· != '\n')
  | .lineComment => false
  | .blockComment => c == '*' && next == some '/'

def Region.single (region : Region) (c : Char) : Region × Region :=
  match region with
  | .code => if c = '"' then (.literal, .literal) else (.code, .code)
  | .literal =>
    if c = '"' then (.literal, .code)
    else if c = '\n' then (.code, .code)
    else (.literal, .literal)
  | .lineComment => if c = '\n' then (.code, .code) else (.lineComment, .lineComment)
  | .blockComment => (.blockComment, .blockComment)

def Region.double (region : Region) (second : Char) : Region × Region :=
  match region with
  | .code =>
    if second = '/' then (.lineComment, .lineComment) else (.blockComment, .blockComment)
  | .literal => (.literal, .literal)
  | .lineComment => (.lineComment, .lineComment)
  | .blockComment => (.blockComment, .code)

theorem scan_single {region : Region} {c : Char} {rest : List Char}
    (alone : region.pairs c rest.head? = false) :
    scanFrom region (c :: rest) =
      (scanFrom (region.single c).2 rest).push c (region.single c).1 := by
  cases region with
  | code =>
      by_cases quote : c = '"'
      · subst quote
        rfl
      · rw [scanFrom, Region.single, if_neg quote]
        · exact quote
        · rintro more rfl rfl
          cases alone
        · rintro more rfl rfl
          cases alone
  | literal =>
      by_cases quote : c = '"'
      · subst quote
        rfl
      by_cases newline : c = '\n'
      · subst newline
        rfl
      rw [Region.single, if_neg quote, if_neg newline]
      by_cases escapes : c = '\\'
      · subst escapes
        cases rest with
        | nil => rfl
        | cons d rest =>
            have isBreak : d = '\n' := by simpa [Region.pairs] using alone
            simp [scanFrom, isBreak, Scan.push]
      · rw [scanFrom]
        · exact quote
        · exact newline
        · intro escaped more same
          exact absurd same escapes
  | lineComment =>
      by_cases newline : c = '\n'
      · subst newline
        rfl
      · rw [scanFrom, if_neg newline, Region.single, if_neg newline]
  | blockComment =>
      by_cases newline : c = '\n'
      · subst newline
        rfl
      · rw [scanFrom, Region.single]
        · exact newline
        · rintro more rfl rfl
          cases alone

theorem scan_double {region : Region} {c d : Char} (together : region.pairs c (some d) = true)
    (rest : List Char) :
    scanFrom region (c :: d :: rest) =
      ((scanFrom (region.double d).2 rest).push d (region.double d).1).push c
        (region.double d).1 := by
  cases region with
  | code =>
      simp only [Region.pairs, Bool.and_eq_true, Bool.or_eq_true, beq_iff_eq,
        Option.some.injEq] at together
      obtain ⟨rfl, rfl | rfl⟩ := together
      · rfl
      · rfl
  | literal =>
      simp only [Region.pairs, Bool.and_eq_true, beq_iff_eq, Option.any_some, bne_iff_ne,
        ne_eq] at together
      obtain ⟨rfl, noBreak⟩ := together
      rw [scanFrom, if_neg noBreak]
      rfl
  | lineComment => cases together
  | blockComment =>
      simp only [Region.pairs, Bool.and_eq_true, beq_iff_eq, Option.some.injEq] at together
      obtain ⟨rfl, rfl⟩ := together
      rfl

/-! ## Texts one behind the other -/

/-- The scanned text ends in code, and not with a slash that could begin the mark of a comment. -/
def Scan.EndsInCode (scan : Scan) : Prop :=
  scan.region = .code ∧ scan.marks.getLast? ≠ some ('/', .code)

/-- No two characters that are read as one lie across the border to the text behind: there is a line
break on either side of it, or it is in code. -/
def Scan.Borders (scan : Scan) (text : List Char) : Prop :=
  (∀ c, text.head? = some c → c = '\n') ∨
    (∀ mark, scan.marks.getLast? = some mark → mark.1 = '\n') ∨ scan.EndsInCode

def Scan.append (first second : Scan) : Scan := ⟨first.marks ++ second.marks, second.region⟩

theorem Scan.Borders.of_push {scan : Scan} {c : Char} {region : Region} {text : List Char}
    (borders : (scan.push c region).Borders text) : scan.Borders text := by
  have later : ∀ mark, scan.marks.getLast? = some mark →
      (scan.push c region).marks.getLast? = some mark := by
    intro mark last
    rw [Scan.push, List.getLast?_cons, last]
    rfl
  rcases borders with newline | newline | ⟨code, last⟩
  · exact Or.inl newline
  · exact Or.inr (Or.inl fun mark ends => newline mark (later mark ends))
  · exact Or.inr (Or.inr ⟨code, fun slash => last (later _ slash)⟩)

theorem pairs_none (region : Region) (c : Char) : region.pairs c none = false := by
  cases region <;> simp [Region.pairs]

theorem pairs_before_break (region : Region) (c : Char) : region.pairs c (some '\n') = false := by
  cases region <;> simp [Region.pairs]

theorem pairs_of_break (region : Region) (next : Option Char) :
    region.pairs '\n' next = false := by
  cases region <;> rfl

theorem scan_char (region : Region) (c : Char) :
    scanFrom region [c] = ⟨[(c, (region.single c).1)], (region.single c).2⟩ :=
  scan_single (pairs_none region c)

theorem not_ends_in_code_of_pair {region : Region} {c : Char} {next : Option Char}
    (together : region.pairs c next = true) : ¬(scanFrom region [c]).EndsInCode := by
  rintro ⟨code, last⟩
  cases region with
  | code =>
      have slash : c = '/' := by
        simp only [Region.pairs, Bool.and_eq_true, beq_iff_eq] at together
        exact together.1
      subst slash
      exact last rfl
  | literal =>
      have escapes : c = '\\' := by
        simp only [Region.pairs, Bool.and_eq_true, beq_iff_eq] at together
        exact together.1
      subst escapes
      cases code
  | lineComment => cases together
  | blockComment =>
      rw [scan_char] at code
      cases code

/-- The last character of a text is not read together with the one behind the border. -/
theorem Scan.Borders.alone {region : Region} {c : Char} {text : List Char}
    (borders : (scanFrom region [c]).Borders text) : region.pairs c text.head? = false := by
  cases next : text.head? with
  | none => exact pairs_none region c
  | some d =>
      rcases borders with newline | newline | inCode
      · rw [newline d next]
        exact pairs_before_break region c
      · have isBreak : c = '\n' := newline (c, (region.single c).1) (by rw [scan_char]; rfl)
        rw [isBreak]
        exact pairs_of_break region (some d)
      · rw [Bool.eq_false_iff]
        exact fun together => not_ends_in_code_of_pair together inCode

/-- A text is scanned as its front and then, from the region behind that, its back. -/
theorem scan_append {back : List Char} : ∀ {region : Region} {front : List Char},
    (scanFrom region front).Borders back →
      scanFrom region (front ++ back) =
        (scanFrom region front).append (scanFrom (scanFrom region front).region back)
  | _, [], _ => rfl
  | region, [c], borders => by
      rw [List.singleton_append, scan_single borders.alone, scan_char]
      rfl
  | region, c :: d :: rest, borders => by
      cases together : region.pairs c (some d) with
      | true =>
          rw [scan_double together] at borders ⊢
          rw [List.cons_append, List.cons_append, scan_double together,
            scan_append borders.of_push.of_push]
          rfl
      | false =>
          have first : region.pairs c (d :: rest).head? = false := together
          have further : region.pairs c (d :: rest ++ back).head? = false := together
          rw [scan_single first] at borders ⊢
          rw [List.cons_append, scan_single further, scan_append borders.of_push]
          rfl

theorem blank_append {region : Region} {front back : List Char}
    (borders : (scanFrom region front).Borders back) :
    blankFrom region (front ++ back) =
      blankFrom region front ++ blankFrom (scanFrom region front).region back := by
  rw [blank_eq_shown, scan_append borders, Scan.append, List.flatMap_append, ← blank_eq_shown,
    ← blank_eq_shown]

/-! ## Lines -/

theorem shown_newline (region : Region) : shown ('\n', region) = ['\n'] := by
  cases region <;> rfl

theorem newline_not_mem_shown {mark : Char × Region} (other : mark.1 ≠ '\n') :
    '\n' ∉ shown mark := by
  intro mem
  unfold shown blankOver blankChar at mem
  split at mem
  · exact absurd (List.eq_of_mem_replicate mem) (by decide)
  · exact other (List.mem_singleton.mp mem).symm

theorem newline_not_mem_blank {text : List Char} (oneLine : '\n' ∉ text) (region : Region) :
    '\n' ∉ blankFrom region text := by
  rw [blank_eq_shown]
  intro mem
  obtain ⟨mark, marked, within⟩ := List.mem_flatMap.mp mem
  have char : mark.1 ∈ text := by
    rw [← scan_chars region text]
    exact List.mem_map_of_mem marked
  refine newline_not_mem_shown ?_ within
  intro newline
  exact oneLine (newline ▸ char)

theorem count_blank (region : Region) (text : List Char) :
    (blankFrom region text).count '\n' = text.count '\n' := by
  have each : ∀ marks : List (Char × Region),
      (marks.flatMap shown).count '\n' = (marks.map Prod.fst).count '\n' := by
    intro marks
    induction marks with
    | nil => rfl
    | cons mark marks ih =>
        obtain ⟨c, region⟩ := mark
        rw [List.flatMap_cons, List.count_append, ih, List.map_cons]
        by_cases newline : c = '\n'
        · rw [newline, shown_newline, List.count_singleton_self, List.count_cons_self, Nat.add_comm]
        · rw [List.count_eq_zero.mpr (newline_not_mem_shown newline),
            List.count_cons_of_ne newline, Nat.zero_add]
  rw [blank_eq_shown, each, scan_chars]

theorem last_char (region : Region) (text : List Char) :
    (scanFrom region text).marks.getLast?.map Prod.fst = text.getLast? := by
  rw [← List.getLast?_map, scan_chars]

theorem blank_ends {region : Region} {text : List Char} (ends : text.getLast? = some '\n') :
    (blankFrom region text).getLast? = some '\n' := by
  rw [← last_char region] at ends
  obtain ⟨⟨c, place⟩, last, newline⟩ := Option.map_eq_some_iff.mp ends
  obtain ⟨front, whole⟩ := List.getLast?_eq_some_iff.mp last
  have isBreak : c = '\n' := newline
  rw [blank_eq_shown, whole, isBreak, List.flatMap_append, List.flatMap_singleton, shown_newline,
    List.getLast?_concat]

theorem blank_begins {region : Region} {text : List Char} (begins : text.head? = some '\n') :
    (blankFrom region text).head? = some '\n' := by
  obtain ⟨rest, rfl⟩ := List.head?_eq_some_iff.mp begins
  cases region <;> rfl

namespace WholeLine

variable {text front line back : List Char}

theorem borders (whole : WholeLine text front line back) :
    (scanFrom .code front).Borders (line ++ back) ∧
      (scanFrom (scanFrom .code front).region line).Borders back := by
  constructor
  · refine Or.inr (Or.inl ?_)
    intro mark last
    have char := last_char .code front
    rw [last, Option.map_some] at char
    rcases whole.begins with rfl | newline
    · cases char
    · rw [newline] at char
      exact Option.some.inj char
  · refine Or.inl ?_
    intro c first
    rcases whole.ends with rfl | newline
    · cases first
    · rw [newline] at first
      exact (Option.some.inj first).symm

theorem scan_marks (whole : WholeLine text front line back) :
    (scanFrom .code text).marks = (scanFrom .code front).marks ++
      ((scanFrom (scanFrom .code front).region line).marks ++
        (scanFrom (scanFrom (scanFrom .code front).region line).region back).marks) := by
  obtain ⟨before, behind⟩ := whole.borders
  rw [whole.text_eq, scan_append before, scan_append behind]
  rfl

/-- A line of the text is, with the comments in it blanked, the line of the blanked text in the same
place. -/
theorem blank (whole : WholeLine text front line back) :
    WholeLine (blankComments text) (blankFrom .code front)
      (blankFrom (scanFrom .code front).region line)
      (blankFrom (scanFrom (scanFrom .code front).region line).region back) := by
  refine ⟨?_, ?_, newline_not_mem_blank whole.oneLine _, ?_⟩
  · rw [blankComments, blank_eq_shown, whole.scan_marks, List.flatMap_append, List.flatMap_append,
      ← blank_eq_shown, ← blank_eq_shown, ← blank_eq_shown]
  · rcases whole.begins with rfl | newline
    · exact Or.inl rfl
    · exact Or.inr (blank_ends newline)
  · rcases whole.ends with rfl | newline
    · exact Or.inl rfl
    · exact Or.inr (blank_begins newline)

theorem blank_numbered (whole : WholeLine text front line back) :
    (splitLines (blankComments text))[front.count '\n']? =
      some (blankFrom (scanFrom .code front).region line) := by
  rw [← count_blank .code front]
  exact whole.blank.numbered

end WholeLine

/-! ## Comments -/

def blankLayout (text : List Char) : List Char := text.flatMap blankOver

theorem layout_cons (c : Char) (text : List Char) :
    blankLayout (c :: text) = blankOver c ++ blankLayout text := List.flatMap_cons

theorem layout_append (front back : List Char) :
    blankLayout (front ++ back) = blankLayout front ++ blankLayout back := List.flatMap_append

theorem blank_single {region : Region} {c : Char} {rest : List Char}
    (alone : region.pairs c rest.head? = false) :
    blankFrom region (c :: rest) =
      shown (c, (region.single c).1) ++ blankFrom (region.single c).2 rest := by
  rw [blank_eq_shown, scan_single alone, Scan.push, List.flatMap_cons, ← blank_eq_shown]

/-- A block comment goes on until its end mark, no part of which is in the body. -/
theorem blank_block_body {body rest : List Char} (unclosed : ¬['*', '/'] <:+: body)
    (apart : rest.head? ≠ some '/') :
    blankFrom .blockComment (body ++ rest) = blankLayout body ++ blankFrom .blockComment rest := by
  induction body with
  | nil => rfl
  | cons c body ih =>
      rw [List.infix_cons_iff, not_or] at unclosed
      have alone : Region.pairs .blockComment c (body ++ rest).head? = false := by
        rw [Bool.eq_false_iff]
        intro together
        simp only [Region.pairs, Bool.and_eq_true, beq_iff_eq] at together
        obtain ⟨star, ends⟩ := together
        cases body with
        | nil => exact apart ends
        | cons d body =>
            apply unclosed.1
            rw [star, Option.some.inj ends]
            exact List.prefix_append ['*', '/'] body
      rw [List.cons_append, blank_single alone, layout_cons, List.append_assoc, ← ih unclosed.2]
      rfl

/-- A block comment ends where its end mark stands first. -/
theorem blank_block {body : List Char} (unclosed : ¬['*', '/'] <:+: body) (rest : List Char) :
    blankFrom .blockComment (body ++ '*' :: '/' :: rest) =
      blankLayout body ++ ' ' :: ' ' :: blankFrom .code rest :=
  blank_block_body unclosed (by simp)

theorem blank_line_body {body : List Char} (oneLine : '\n' ∉ body) (rest : List Char) :
    blankFrom .lineComment (body ++ rest) = blankLayout body ++ blankFrom .lineComment rest := by
  induction body with
  | nil => rfl
  | cons c body ih =>
      rw [List.mem_cons, not_or] at oneLine
      have inside : c ≠ '\n' := Ne.symm oneLine.1
      rw [List.cons_append, blankFrom, if_neg inside, ih oneLine.2, layout_cons, blankOver,
        if_neg inside, List.append_assoc]

theorem blank_line {body : List Char} (oneLine : '\n' ∉ body) (rest : List Char) :
    blankFrom .lineComment (body ++ '\n' :: rest) =
      blankLayout body ++ '\n' :: blankFrom .code rest :=
  blank_line_body oneLine _

theorem layout_char {c d : Char} (mem : d ∈ blankOver c) : d = '\n' ∨ d = ' ' := by
  unfold blankOver at mem
  split at mem
  · exact Or.inl (List.mem_singleton.mp mem)
  · exact Or.inr (List.eq_of_mem_replicate mem)

theorem blank_of_blanks {blanks : List Char} (all : ∀ d ∈ blanks, d = '\n' ∨ d = ' ')
    (rest : List Char) : blankFrom .code (blanks ++ rest) = blanks ++ blankFrom .code rest := by
  induction blanks with
  | nil => rfl
  | cons d blanks ih =>
      rw [List.forall_mem_cons] at all
      rw [List.cons_append, List.cons_append, ← ih all.2]
      rcases all.1 with rfl | rfl
      · rfl
      · rfl

theorem blank_of_layout (text rest : List Char) :
    blankFrom .code (blankLayout text ++ rest) = blankLayout text ++ blankFrom .code rest := by
  apply blank_of_blanks
  intro d mem
  obtain ⟨c, -, within⟩ := List.mem_flatMap.mp mem
  exact layout_char within

/-- The layout of a text is told by the widths of its lines. -/
theorem layout_eq_join (text : List Char) :
    blankLayout text =
      joinWith ['\n']
        (((splitLines text).map length16).map fun width => List.replicate width ' ') := by
  induction text with
  | nil => rfl
  | cons c text ih =>
      obtain ⟨line, lines, cut⟩ :=
        List.exists_cons_of_ne_nil (split_at_all_ne_nil '\n' text)
      have behind : splitLines text = line :: lines := cut
      rw [layout_cons, ih, behind]
      by_cases isBreak : c = '\n'
      · have whole : splitLines (c :: text) = [] :: line :: lines := by
          simp [splitLines, splitAtAll, isBreak, cut]
        rw [whole, blankOver, if_pos isBreak]
        rfl
      · have whole : splitLines (c :: text) = (c :: line) :: lines := by
          simp [splitLines, splitAtAll, isBreak, cut]
        rw [whole, blankOver, if_neg isBreak, blankChar]
        cases lines with
        | nil => simp [joinWith, length16]
        | cons next lines => simp [joinWith, length16, ← List.replicate_append_replicate]

theorem layout_eq_of_widths {first second : List Char}
    (same : (splitLines first).map length16 = (splitLines second).map length16) :
    blankLayout first = blankLayout second := by
  rw [layout_eq_join, layout_eq_join, same]

/-! ## Imports beside comments -/

theorem parse_imports_congr {first second : String}
    (same : blankComments first.toList = blankComments second.toList) :
    parseImports first = parseImports second := by
  rw [parseImports, parseImports, same]

/-- Blanks that stand behind code leave the code around them as it is. -/
theorem blank_from_layout {before : List Char} (inCode : (scanFrom .code before).EndsInCode)
    (text after : List Char) :
    blankComments (before ++ (blankLayout text ++ after)) =
      blankComments before ++ (blankLayout text ++ blankFrom .code after) := by
  rw [blankComments, blank_append (Or.inr (Or.inr inCode)), inCode.1, blank_of_layout]
  rfl

section

variable {before body : String}

theorem imports_beside_block (inCode : (scanFrom .code before.toList).EndsInCode)
    (unclosed : ¬['*', '/'] <:+: body.toList) (after : String) :
    parseImports (before ++ "/*" ++ body ++ "*/" ++ after) =
      parseImports
        (before ++ .ofList (blankLayout ("/*" ++ body ++ "*/").toList) ++ after) := by
  have written : (before ++ "/*" ++ body ++ "*/" ++ after).toList =
      before.toList ++ '/' :: '*' :: (body.toList ++ '*' :: '/' :: after.toList) := by
    simp
  have marks : ("/*" ++ body ++ "*/").toList = '/' :: '*' :: (body.toList ++ ['*', '/']) := by simp
  have layout : blankLayout ("/*" ++ body ++ "*/").toList =
      ' ' :: ' ' :: blankLayout body.toList ++ [' ', ' '] := by
    rw [marks, layout_cons, layout_cons, blankLayout, List.flatMap_append]
    rfl
  have blanked : (before ++ .ofList (blankLayout ("/*" ++ body ++ "*/").toList) ++ after).toList =
      before.toList ++ (blankLayout ("/*" ++ body ++ "*/").toList ++ after.toList) := by
    rw [String.toList_append, String.toList_append, String.toList_ofList, List.append_assoc]
  apply parse_imports_congr
  rw [written, blanked, blank_from_layout inCode, blankComments,
    blank_append (Or.inr (Or.inr inCode)), inCode.1, blankFrom, blank_block unclosed, layout]
  simp [blankComments]

theorem imports_beside_line (inCode : (scanFrom .code before.toList).EndsInCode)
    (oneLine : '\n' ∉ body.toList) (after : String) :
    parseImports (before ++ "//" ++ body ++ "\n" ++ after) =
      parseImports
        (before ++ .ofList (blankLayout ("//" ++ body).toList) ++ "\n" ++ after) := by
  have written : (before ++ "//" ++ body ++ "\n" ++ after).toList =
      before.toList ++ '/' :: '/' :: (body.toList ++ '\n' :: after.toList) := by
    simp
  have marks : ("//" ++ body).toList = '/' :: '/' :: body.toList := by simp
  have layout : blankLayout ("//" ++ body).toList = ' ' :: ' ' :: blankLayout body.toList := by
    rw [marks, layout_cons, layout_cons]
    rfl
  have newline : blankFrom .code ("\n".toList ++ after.toList) =
      '\n' :: blankFrom .code after.toList := rfl
  have blanked : (before ++ .ofList (blankLayout ("//" ++ body).toList) ++ "\n" ++ after).toList =
      before.toList ++ (blankLayout ("//" ++ body).toList ++ ("\n".toList ++ after.toList)) := by
    rw [String.toList_append, String.toList_append, String.toList_append, String.toList_ofList,
      List.append_assoc, List.append_assoc]
  apply parse_imports_congr
  rw [written, blanked, blank_from_layout inCode, blankComments,
    blank_append (Or.inr (Or.inr inCode)), inCode.1, blankFrom, blank_line oneLine, layout, newline]
  simp [blankComments]

end

/-- Imports do not depend on what a comment says. A comment that begins in code counts as blanks of
its layout, the code behind it counts as code, and so two comments with the same layout count the
same. -/
theorem comments_count_as_blanks (before after : String)
    (inCode : (scanFrom .code before.toList).EndsInCode) :
    (∀ body : String, ¬['*', '/'] <:+: body.toList →
        parseImports (before ++ "/*" ++ body ++ "*/" ++ after) =
          parseImports
            (before ++ .ofList (blankLayout ("/*" ++ body ++ "*/").toList) ++ after)) ∧
      (∀ body other : String, ¬['*', '/'] <:+: body.toList → ¬['*', '/'] <:+: other.toList →
        (splitLines body.toList).map length16 = (splitLines other.toList).map length16 →
          parseImports (before ++ "/*" ++ body ++ "*/" ++ after) =
            parseImports (before ++ "/*" ++ other ++ "*/" ++ after)) ∧
      (∀ body : String, '\n' ∉ body.toList →
        parseImports (before ++ "//" ++ body ++ "\n" ++ after) =
          parseImports
            (before ++ .ofList (blankLayout ("//" ++ body).toList) ++ "\n" ++ after)) ∧
      ∀ body other : String, '\n' ∉ body.toList → '\n' ∉ other.toList →
        length16 body.toList = length16 other.toList →
          parseImports (before ++ "//" ++ body ++ "\n" ++ after) =
            parseImports (before ++ "//" ++ other ++ "\n" ++ after) := by
  have around : ∀ (body other front back : String), blankLayout body.toList =
      blankLayout other.toList → blankLayout (front ++ body ++ back).toList =
        blankLayout (front ++ other ++ back).toList := by
    intro body other front back same
    simp only [String.toList_append, blankLayout, List.flatMap_append] at same ⊢
    rw [same]
  refine ⟨fun body unclosed => imports_beside_block inCode unclosed after, ?_,
    fun body oneLine => imports_beside_line inCode oneLine after, ?_⟩
  · intro body other unclosed alsoUnclosed widths
    rw [imports_beside_block inCode unclosed, imports_beside_block inCode alsoUnclosed,
      around body other "/*" "*/" (layout_eq_of_widths widths)]
  · intro body other oneLine alsoOneLine width
    have widths : (splitLines body.toList).map length16 =
        (splitLines other.toList).map length16 := by
      rw [splitLines, split_at_all_clean _ _ oneLine, splitLines,
        split_at_all_clean _ _ alsoOneLine, List.map_singleton, List.map_singleton, width]
    have same := around body other "//" "" (layout_eq_of_widths widths)
    rw [String.append_empty, String.append_empty] at same
    rw [imports_beside_line inCode oneLine, imports_beside_line inCode alsoOneLine, same]

/-- Quotes, marks and an import in comments that begin behind the slash of another comment. -/
theorem quotes_in_comment_unseen :
    let before := "import \"./a\"; /**/"
    let after := "; import \"./b\";"
    let body := " \"; import \"./x\"; // \\\n/* *"
    let other := "                      \n    "
    (scanFrom .code before.toList).EndsInCode ∧
      (¬['*', '/'] <:+: body.toList ∧ ¬['*', '/'] <:+: other.toList) ∧
      (splitLines body.toList).map length16 = (splitLines other.toList).map length16 ∧
      parseImports (before ++ "/*" ++ body ++ "*/" ++ after) =
        parseImports (before ++ "/*" ++ other ++ "*/" ++ after) ∧
      (parseImports (before ++ "/*" ++ body ++ "*/" ++ after)).map ImportStatement.path =
        ["./a", "./b"] ∧
      parseImports (before ++ "//" ++ "\"/*" ++ "\n" ++ after) =
        parseImports (before ++ "//" ++ "..." ++ "\n" ++ after) := by
  intro before after body other
  have inCode : (scanFrom .code before.toList).EndsInCode :=
    ⟨by decide +kernel, by decide +kernel⟩
  have unclosed : ¬['*', '/'] <:+: body.toList ∧ ¬['*', '/'] <:+: other.toList :=
    ⟨by decide +kernel, by decide +kernel⟩
  have widths : (splitLines body.toList).map length16 = (splitLines other.toList).map length16 := by
    decide +kernel
  obtain ⟨-, blocks, -, lines⟩ := comments_count_as_blanks before after inCode
  exact ⟨inCode, unclosed, widths, blocks body other unclosed.1 unclosed.2 widths,
    by decide +kernel,
    lines "\"/*" "..." (by decide +kernel) (by decide +kernel) (by decide +kernel)⟩

end TactServer
