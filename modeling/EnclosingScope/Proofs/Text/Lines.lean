import EnclosingScope.Parsing.Cursor
import EnclosingScope.Text.Bytes
import EnclosingScope.Text.Lines
import Mathlib.Data.List.DropRight

namespace EnclosingScope

open EnclosingScope.Tree Parsing

namespace Text

def LineEnd.chars : LineEnd → List Char
  | none => []
  | lineFeed => ['\n']
  | carriageReturnLineFeed => ['\r', '\n']

def Line.chars (line : Line) : List Char :=
  line.text ++ line.ending.chars

def lastPart (cs : List Char) : List Char :=
  cs.rtakeWhile (· ≠ '\n')

def rowCount (cs : List Char) : Nat :=
  cs.count '\n' + if lastPart cs = [] then 0 else 1

def withoutReturn (cs : List Char) : List Char :=
  if cs.getLast? = some '\r' then cs.dropLast else cs

variable {back a b cs : List Char}

theorem byteCount_concat (cs : List Char) (c : Char) :
    byteCount (cs ++ [c]) = byteCount cs + c.utf8Size := by
  induction cs with
  | nil => simp [byteCount]
  | cons first cs ih => simp [byteCount, ih, Nat.add_assoc]

theorem lastPart_nil : lastPart [] = [] :=
  List.rtakeWhile_nil ..

theorem lastPart_concat (cs : List Char) (c : Char) :
    lastPart (cs ++ [c]) = if c = '\n' then [] else lastPart cs ++ [c] := by
  rw [lastPart, List.rtakeWhile_concat]
  by_cases h : c = '\n'
  · simp [h]
  · simp [h, lastPart]

theorem withoutReturn_isPrefix (cs : List Char) : withoutReturn cs <+: cs := by
  rw [withoutReturn]
  split
  · exact List.dropLast_prefix cs
  · exact List.prefix_rfl

theorem prefix_withoutReturn_append (h : b ≠ []) : a <+: withoutReturn (a ++ b) := by
  rw [withoutReturn]
  split
  · rw [List.dropLast_append_of_ne_nil h]
    exact List.prefix_append ..
  · exact List.prefix_append ..

theorem close_reverse (cs : List Char) :
    Line.close cs.reverse =
      if cs.getLast? = some '\r' then ⟨cs.dropLast, .carriageReturnLineFeed⟩
      else ⟨cs, .lineFeed⟩ := by
  cases cs using List.reverseRecOn with
  | nil => rfl
  | append_singleton cs c =>
      rw [List.reverse_concat, List.getLast?_concat, List.dropLast_concat]
      unfold Line.close
      split
      · next heq =>
          obtain ⟨rfl, rfl⟩ := List.cons_eq_cons.1 heq
          simp
      · next hne =>
          have hc : c ≠ '\r' := fun heq => hne cs.reverse (by rw [heq])
          simp [hc]

theorem text_close (cs : List Char) : (Line.close cs.reverse).text = withoutReturn cs := by
  rw [close_reverse, withoutReturn]
  split <;> rfl

theorem chars_close (cs : List Char) : (Line.close cs.reverse).chars = cs ++ ['\n'] := by
  rw [close_reverse]
  split
  · next h =>
      obtain ⟨front, rfl⟩ := List.getLast?_eq_some_iff.1 h
      simp [Line.chars, LineEnd.chars]
  · rfl

structure Rows (text : List Char) (rows : List Line) : Prop where
  joined : rows.flatMap Line.chars = text
  plain : ∀ row ∈ rows, '\n' ∉ row.text
  stripped : ∀ row ∈ rows, row.ending = .lineFeed → row.text.getLast? ≠ some '\r'
  ended : ∀ row ∈ rows.dropLast, row.ending ≠ .none
  nonempty : ∀ row ∈ rows, row.ending = .none → row.text ≠ []

theorem Rows.nil : Rows [] [] := by
  constructor <;> simp

theorem Rows.open_end (hne : cs ≠ []) (hcs : '\n' ∉ cs) : Rows cs [⟨cs, .none⟩] := by
  constructor <;> simp [Line.chars, LineEnd.chars, hne, hcs]

theorem Rows.close {rows : List Line} (h : Rows b rows) (ha : '\n' ∉ a) :
    Rows (a ++ '\n' :: b) (Line.close a.reverse :: rows) where
  joined := by
    rw [List.flatMap_cons, chars_close, h.joined]
    simp
  plain := by
    refine List.forall_mem_cons.2 ⟨?_, h.plain⟩
    rw [text_close]
    exact fun hmem => ha ((withoutReturn_isPrefix a).subset hmem)
  stripped := by
    refine List.forall_mem_cons.2 ⟨?_, h.stripped⟩
    rw [close_reverse]
    split
    · simp
    · next hreturn => exact fun _ => hreturn
  ended := by
    have hclose : (Line.close a.reverse).ending ≠ .none := by
      rw [close_reverse]
      split <;> simp
    cases rows with
    | nil => simp
    | cons row rows =>
        rw [List.dropLast_cons_cons]
        exact List.forall_mem_cons.2 ⟨hclose, h.ended⟩
  nonempty := by
    refine List.forall_mem_cons.2 ⟨?_, h.nonempty⟩
    rw [close_reverse]
    split <;> simp

theorem rows_linesFrom (hback : '\n' ∉ back) : Rows (back.reverse ++ cs) (linesFrom back cs) := by
  induction cs generalizing back with
  | nil =>
      rw [linesFrom, List.append_nil]
      cases back with
      | nil => exact .nil
      | cons c back => exact .open_end (by simp) (by rwa [List.mem_reverse])
  | cons c cs ih =>
      rw [linesFrom]
      split
      · next hc =>
          subst hc
          have hrows := (ih List.not_mem_nil).close (a := back.reverse) (by simpa using hback)
          simpa using hrows
      · next hc =>
          have hmem : '\n' ∉ c :: back := by simp [hback, Ne.symm hc]
          simpa using ih hmem

theorem rows_lines (cs : List Char) : Rows cs (lines cs) :=
  rows_linesFrom List.not_mem_nil

def unclosed (back cs : List Char) : List Char :=
  cs.foldl (fun back c => if c = '\n' then [] else c :: back) back

theorem unclosed_nil (cs : List Char) : unclosed [] cs = (lastPart cs).reverse := by
  induction cs using List.reverseRecOn with
  | nil => simp [unclosed, lastPart_nil]
  | append_singleton cs c ih =>
      rw [unclosed, List.foldl_concat, ← unclosed, ih, lastPart_concat]
      split <;> simp

theorem linesFrom_append (back a b : List Char) :
    ∃ closed, closed.length = a.count '\n' ∧
      linesFrom back (a ++ b) = closed ++ linesFrom (unclosed back a) b := by
  induction a generalizing back with
  | nil => exact ⟨[], rfl, rfl⟩
  | cons c a ih =>
      rw [List.cons_append, linesFrom, unclosed, List.foldl_cons, ← unclosed]
      by_cases hc : c = '\n'
      · obtain ⟨closed, hlength, hlines⟩ := ih []
        refine ⟨Line.close back :: closed, ?_, ?_⟩
        · simp [hc, hlength]
        · simp [hc, hlines]
      · obtain ⟨closed, hlength, hlines⟩ := ih (c :: back)
        refine ⟨closed, ?_, ?_⟩
        · simp [hc, hlength]
        · simp [hc, hlines]

theorem lines_append (a b : List Char) :
    ∃ closed, closed.length = a.count '\n' ∧
      lines (a ++ b) = closed ++ linesFrom (lastPart a).reverse b := by
  rw [lines, ← unclosed_nil]
  exact linesFrom_append [] a b

theorem length_lines (cs : List Char) : (lines cs).length = rowCount cs := by
  obtain ⟨closed, hlength, hlines⟩ := lines_append cs []
  rw [List.append_nil] at hlines
  rw [hlines, List.length_append, hlength, rowCount, linesFrom]
  simp only [List.isEmpty_reverse, List.isEmpty_iff]
  split <;> rfl

theorem linesFrom_close (h : '\n' ∉ a) (back b : List Char) :
    linesFrom back (a ++ '\n' :: b) = Line.close (a.reverse ++ back) :: linesFrom [] b := by
  induction a generalizing back with
  | nil => simp [linesFrom]
  | cons c a ih =>
      rw [List.mem_cons, not_or] at h
      simp [linesFrom, Ne.symm h.1, ih h.2]

theorem linesFrom_open (h : '\n' ∉ b) (back : List Char) :
    linesFrom back b =
      if b.reverse ++ back = [] then [] else [⟨back.reverse ++ b, .none⟩] := by
  induction b generalizing back with
  | nil => simp [linesFrom]
  | cons c b ih =>
      rw [List.mem_cons, not_or] at h
      simp [linesFrom, Ne.symm h.1, ih h.2]

def rowText (cs : List Char) (row : Nat) : List Char :=
  ((lines cs)[row]?.map Line.text).getD []

theorem rowText_of_lt {row : Nat} (h : row < (lines cs).length) :
    rowText cs row = (lines cs)[row].text := by
  simp [rowText, h]

theorem rowText_of_le {row : Nat} (h : rowCount cs ≤ row) : rowText cs row = [] := by
  rw [← length_lines] at h
  simp [rowText, h]

theorem rowText_append (a b : List Char) :
    rowText (a ++ b) (a.count '\n') =
      ((linesFrom (lastPart a).reverse b)[0]?.map Line.text).getD [] := by
  obtain ⟨closed, hlength, hlines⟩ := lines_append a b
  rw [rowText, hlines, ← hlength, List.getElem?_append_right (Nat.le_refl _), Nat.sub_self]

theorem rowText_close (h : '\n' ∉ b) (a rest : List Char) :
    rowText (a ++ (b ++ '\n' :: rest)) (a.count '\n') = withoutReturn (lastPart a ++ b) := by
  rw [rowText_append, linesFrom_close h, ← List.reverse_append, ← text_close]
  rfl

theorem rowText_open (h : '\n' ∉ b) (a : List Char) :
    rowText (a ++ b) (a.count '\n') = lastPart a ++ b := by
  rw [rowText_append, linesFrom_open h]
  split
  · next hnil =>
      rw [← List.reverse_append, List.reverse_eq_nil_iff] at hnil
      exact hnil.symm
  · simp

theorem toList_lineText (source : String) (point : Point) :
    (lineText source point).toList = rowText source.toList point.row.toNat := by
  rw [lineText, rowText]
  split
  · next h => simp [h]
  · next h => simp [h]

structure Around (a b line : List Char) : Prop where
  plain : '\n' ∉ line
  whole : ¬ ((lastPart a).getLast? = some '\r' ∧ b.head? = some '\n') → lastPart a <+: line
  torn : ∀ part, lastPart a = part ++ ['\r'] → b.head? = some '\n' → line = part

theorem plain_rowText (cs : List Char) (row : Nat) : '\n' ∉ rowText cs row := by
  by_cases h : row < (lines cs).length
  · rw [rowText_of_lt h]
    exact (rows_lines cs).plain _ (List.getElem_mem h)
  · rw [length_lines, Nat.not_lt] at h
    simp [rowText_of_le h]

theorem around_rowText (a b : List Char) : Around a b (rowText (a ++ b) (a.count '\n')) where
  plain := plain_rowText _ _
  whole := by
    intro hwhole
    by_cases hb : '\n' ∈ b
    · obtain ⟨before, rest, rfl, hbefore⟩ := List.eq_append_cons_of_mem hb
      rw [rowText_close hbefore]
      cases before with
      | nil =>
          have hlast : (lastPart a).getLast? ≠ some '\r' := fun heq => hwhole ⟨heq, rfl⟩
          simp [withoutReturn, hlast]
      | cons c before => exact prefix_withoutReturn_append (by simp)
    · rw [rowText_open hb]
      exact List.prefix_append ..
  torn := by
    intro part hpart hb
    obtain ⟨rest, rfl⟩ := List.head?_eq_some_iff.1 hb
    have htext := rowText_close List.not_mem_nil a rest
    rw [List.nil_append, List.append_nil, hpart] at htext
    rw [htext, withoutReturn]
    simp

end Text

namespace Parsing.Place

open Text

def behind (cs : List Char) : Place :=
  cs.foldl after origin

theorem behind_concat (cs : List Char) (c : Char) : behind (cs ++ [c]) = (behind cs).after c :=
  List.foldl_concat ..

theorem row_behind (cs : List Char) : (behind cs).row = cs.count '\n' := by
  induction cs using List.reverseRecOn with
  | nil => rfl
  | append_singleton cs c ih =>
      rw [behind_concat, after, List.count_append, ← ih]
      by_cases hc : c = '\n'
      · simp [hc]
      · simp [hc]

theorem column_behind (cs : List Char) : (behind cs).column = byteCount (lastPart cs) := by
  induction cs using List.reverseRecOn with
  | nil => simp [lastPart_nil, byteCount, behind, origin]
  | append_singleton cs c ih =>
      rw [behind_concat, after, lastPart_concat]
      by_cases hc : c = '\n'
      · simp [hc, byteCount]
      · simp [hc, ih, byteCount_concat]

end Parsing.Place

namespace Text

open Place

theorem lineText_follows_rows (source : String) :
    (∀ a b : String, source = a ++ b →
      ((behind a.toList).row = a.toList.count '\n' ∧
        (behind a.toList).column = byteCount (lastPart a.toList)) ∧
      ∀ point : Point, point.row.toNat = a.toList.count '\n' →
        Around a.toList b.toList (lineText source point).toList) ∧
    (∀ point : Point, rowCount source.toList ≤ point.row.toNat → lineText source point = "") ∧
    ∃ rows, Rows source.toList rows ∧ rows.length = rowCount source.toList ∧
      ∀ (point : Point) (h : point.row.toNat < rows.length),
        (lineText source point).toList = rows[point.row.toNat].text := by
  refine ⟨fun a b hs => ⟨⟨row_behind _, column_behind _⟩, fun point hrow => ?_⟩,
    fun point hrow => ?_, lines source.toList, rows_lines _, length_lines _, fun point h => ?_⟩
  · rw [toList_lineText, hrow, hs, String.toList_append]
    exact around_rowText a.toList b.toList
  · rw [← String.toList_eq_nil_iff, toList_lineText]
    exact rowText_of_le hrow
  · rw [toList_lineText]
    exact rowText_of_lt h

-- Two carriage returns, of which the second belongs to the end, and one at the end of all.
def looseReturns : String := "one\r\r\ntwo\r"

theorem looseReturns_lines :
    looseReturns = "one\r\r" ++ "\ntwo\r" ∧ lineText looseReturns ⟨0, 5⟩ = "one\r" ∧
      looseReturns = "one\r\r\ntwo\r" ++ "" ∧
      "two\r".toList <+: (lineText looseReturns ⟨1, 4⟩).toList ∧
      rowCount looseReturns.toList = 2 ∧ lineText looseReturns ⟨2, 0⟩ = "" := by
  have hcount : rowCount looseReturns.toList = 2 := by decide +kernel
  obtain ⟨haround, hbeyond, -⟩ := lineText_follows_rows looseReturns
  have htorn := (haround "one\r\r" "\ntwo\r" rfl).2 ⟨0, 5⟩ (by decide)
  have hwhole := (haround "one\r\r\ntwo\r" "" rfl).2 ⟨1, 4⟩ (by decide)
  refine ⟨rfl, ?_, rfl, ?_, hcount, hbeyond ⟨2, 0⟩ (by rw [hcount]; decide)⟩
  · exact String.toList_inj.1 (htorn.torn "one\r".toList (by decide +kernel) rfl)
  · exact hwhole.whole (by simp)

end Text

end EnclosingScope
