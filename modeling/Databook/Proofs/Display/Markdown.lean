import Databook.Proofs.Display.Bars

/-!
# The shape of a table

A table has a line for each row and in each of its lines a cell for each property, unless a text that
is written into it brings line breaks or bars of its own. The line breaks of joined texts are those of
the texts and one for each seam (`Text.length_lines_join`). Bars in cells are escaped, bars in names are
not, and line breaks are left as they are. So the table keeps its shape just if no name has a line break
or an open bar, and no cell has a line break (`Document.markdown_shape`).
-/

namespace Databook

open Text

/-! ### Lines of texts -/

namespace Text

/-- The lines of a text. -/
def lines (s : String) : List String := (s.toList.splitOn '\n').map String.ofList

/-- The number of line breaks in a text. -/
def lineBreaks (s : String) : Nat := s.toList.count '\n'

variable {s : String} {parts : List String}

theorem length_splitOn (a : Char) (cs : List Char) : (cs.splitOn a).length = cs.count a + 1 := by
  induction cs with
  | nil => rfl
  | cons c cs ih =>
    rw [List.splitOn_cons_eq_if_modifyHead, List.count_cons]
    split
    · rw [List.length_cons, ih]
    · rw [List.length_modifyHead, ih, Nat.add_zero]

theorem length_lines (s : String) : (lines s).length = lineBreaks s + 1 := by
  rw [lines, List.length_map, length_splitOn, lineBreaks]

@[simp]
theorem lineBreaks_append (s t : String) : lineBreaks (s ++ t) = lineBreaks s + lineBreaks t := by
  rw [lineBreaks, String.toList_append, List.count_append, lineBreaks, lineBreaks]

theorem lineBreaks_eq_zero_iff : lineBreaks s = 0 ↔ '\n' ∉ s.toList := List.count_eq_zero

/-- The line breaks of joined texts are those of the texts and one separator less. -/
theorem lineBreaks_join (sep : String) (hne : parts ≠ []) :
    lineBreaks (join sep parts) + lineBreaks sep
      = (parts.map fun part => lineBreaks part + lineBreaks sep).sum := by
  unfold join
  induction parts with
  | nil => exact absurd rfl hne
  | cons part parts ih =>
    cases parts with
    | nil => simp
    | cons next parts =>
      rw [String.intercalate_cons_cons, lineBreaks_append, lineBreaks_append, List.map_cons,
        List.sum_cons, ← ih (List.cons_ne_nil _ _)]
      omega

/-- Texts without line breaks are the lines of the text that they are joined to. -/
theorem lines_join (hne : parts ≠ []) (h : ∀ part ∈ parts, lineBreaks part = 0) :
    lines (join "\n" parts) = parts := by
  have hid : String.ofList ∘ String.toList = id := funext fun _ => String.ofList_toList
  have hbreak : ("\n" : String).toList = ['\n'] := rfl
  rw [lines, join, String.toList_intercalate, hbreak, List.splitOn_intercalate]
  · rw [List.map_map, hid, List.map_id]
  · intro cs hcs
    obtain ⟨part, hpart, rfl⟩ := List.mem_map.1 hcs
    exact lineBreaks_eq_zero_iff.1 (h part hpart)
  · exact mt List.map_eq_nil_iff.1 hne

/-- Each line break in a text that is joined makes one line more. -/
theorem length_lines_join (hne : parts ≠ []) :
    (lines (join "\n" parts)).length = parts.length + (parts.map lineBreaks).sum := by
  have hbreak : lineBreaks "\n" = 1 := rfl
  have hjoin := lineBreaks_join "\n" hne
  rw [hbreak, sum_map_succ] at hjoin
  rw [length_lines, hjoin]

/-- Line breaks in a line come from the texts in it. -/
theorem lineBreaks_line {opening sep close : String} (hne : parts ≠ [])
    (hopening : lineBreaks opening = 0) (hsep : lineBreaks sep = 0) (hclose : lineBreaks close = 0) :
    lineBreaks (opening ++ join sep parts ++ close) = (parts.map lineBreaks).sum := by
  have hjoin := lineBreaks_join sep hne
  simp only [hsep, Nat.add_zero] at hjoin
  rw [lineBreaks_append, lineBreaks_append, hopening, hclose, hjoin, Nat.zero_add, Nat.add_zero]

/-- Bars are escaped one by one, and nothing else. -/
theorem lineBreaks_escapeBars (s : String) : lineBreaks (escapeBars s) = lineBreaks s := by
  rw [lineBreaks, Escaping.toList_escapeBars, lineBreaks]
  induction s.toList with
  | nil => rfl
  | cons c cs ih =>
    rw [List.flatMap_cons, List.count_append, ih, List.count_cons, Nat.add_comm]
    by_cases hbar : c = '|'
    · subst hbar
      rfl
    · rw [Escaping.escapeBar_of_ne hbar, List.count_singleton]

theorem lineBreaks_toString (n : Nat) : lineBreaks (toString n) = 0 := by
  rw [lineBreaks_eq_zero_iff, Nat.toString_eq_ofList_toDigits, String.toList_ofList]
  intro hmem
  exact absurd (Nat.isDigit_of_mem_toDigits (by decide) (by decide) hmem) (by decide)

end Text

/-! ### The table of a document -/

/-- The text that a table shows for a cell. -/
def Row.shown (row : Row) (p : Property) : String := p.shownText (row.cell p.id)

namespace Document

/-- The number of line breaks in the names of the properties. -/
def nameBreaks (d : Document) : Nat := (d.properties.map fun p => lineBreaks p.name).sum

/-- The number of line breaks in the texts of the cells. -/
def cellBreaks (d : Document) : Nat :=
  (d.rows.map fun row => (d.properties.map fun p => lineBreaks (row.shown p)).sum).sum

/-- Does a text have the shape of the table of a document? There are eight lines and one for each row,
and from the seventh line on each has a cell for each property. -/
structure TableShape (d : Document) (e : Escaping) (text : String) : Prop where
  length_lines : (lines text).length = 8 + d.rows.length
  length_cells : ∀ line ∈ (lines text).drop 6, (e.cells line).length = d.properties.length

variable {d : Document} {title : String}

theorem tableLines_eq (hne : d.properties ≠ []) :
    d.tableLines = tableLine (d.properties.map (·.name)) ::
      ("|" ++ join "|" (d.properties.map fun _ => "---") ++ "|") ::
      d.rows.map fun row => tableLine (d.properties.map fun p => escapeBars (row.shown p)) := by
  rw [tableLines, if_neg (by rwa [List.isEmpty_iff])]
  rfl

theorem frontMatter_append_ne_nil (title : String) (rest : List String) :
    d.frontMatter title ++ rest ≠ [] := by
  rw [frontMatter, List.cons_append]
  exact List.cons_ne_nil _ _

/-- The names stand above the table. -/
theorem sum_lineBreaks_frontMatter (hne : d.properties ≠ []) (htitle : lineBreaks title = 0) :
    ((d.frontMatter title).map lineBreaks).sum = d.nameBreaks := by
  have hcolumn (p : Property) :
      lineBreaks (p.name ++ " (" ++ p.type.name ++ ")") = lineBreaks p.name := by
    have htype : lineBreaks p.type.name = 0 := by cases p.type <;> rfl
    rw [lineBreaks_append, lineBreaks_append, lineBreaks_append, htype]
    rfl
  have hcolumns : lineBreaks ("properties: " ++ join ", "
      (d.properties.map fun p => p.name ++ " (" ++ p.type.name ++ ")") ++ "") = d.nameBreaks := by
    rw [lineBreaks_line (mt List.map_eq_nil_iff.1 hne) rfl rfl rfl, List.map_map]
    exact congrArg List.sum (List.map_congr_left fun p _ => hcolumn p)
  rw [String.append_empty] at hcolumns
  simp only [frontMatter, List.map_cons, List.map_nil, List.sum_cons, List.sum_nil, hcolumns]
  simp only [lineBreaks_append, htitle, lineBreaks_toString]
  have hdashes : lineBreaks "---" = 0 := rfl
  have hkeys : lineBreaks "title: " = 0 ∧ lineBreaks "rows: " = 0 ∧ lineBreaks "" = 0 := ⟨rfl, rfl, rfl⟩
  omega

/-- The names stand in the first line of the table, and the cells in the others. -/
theorem sum_lineBreaks_tableLines (hne : d.properties ≠ []) :
    (d.tableLines.map lineBreaks).sum = d.nameBreaks + d.cellBreaks := by
  have hnames : lineBreaks (tableLine (d.properties.map (·.name))) = d.nameBreaks := by
    rw [tableLine, lineBreaks_line (mt List.map_eq_nil_iff.1 hne) rfl rfl rfl, List.map_map]
    rfl
  have hdashes : lineBreaks ("|" ++ join "|" (d.properties.map fun _ => "---") ++ "|") = 0 := by
    rw [lineBreaks_line (mt List.map_eq_nil_iff.1 hne) rfl rfl rfl, List.sum_eq_zero_iff]
    simp only [List.mem_map, forall_exists_index, and_imp]
    rintro _ _ _ _ rfl rfl
    rfl
  have hrow (row : Row) :
      lineBreaks (tableLine (d.properties.map fun p => escapeBars (row.shown p)))
        = (d.properties.map fun p => lineBreaks (row.shown p)).sum := by
    rw [tableLine, lineBreaks_line (mt List.map_eq_nil_iff.1 hne) rfl rfl rfl, List.map_map]
    exact congrArg List.sum (List.map_congr_left fun p _ => lineBreaks_escapeBars _)
  rw [tableLines_eq hne, List.map_cons, List.map_cons, List.sum_cons, List.sum_cons, hnames, hdashes,
    Nat.zero_add, List.map_map]
  exact congrArg (d.nameBreaks + ·.sum) (List.map_congr_left fun row _ => hrow row)

/-- Each line break in a name makes two lines more, and each in a cell one. -/
theorem length_lines_markdown (hne : d.properties ≠ []) (htitle : lineBreaks title = 0) :
    (lines (d.markdown title)).length = 8 + d.rows.length + (2 * d.nameBreaks + d.cellBreaks) := by
  have hlength : (d.frontMatter title ++ d.tableLines).length = 8 + d.rows.length := by
    rw [List.length_append, tableLines_eq hne, List.length_cons, List.length_cons, List.length_map,
      show (d.frontMatter title).length = 6 from rfl]
    omega
  rw [markdown, length_lines_join (frontMatter_append_ne_nil _ _), hlength, List.map_append,
    List.sum_append, sum_lineBreaks_frontMatter hne htitle, sum_lineBreaks_tableLines hne]
  omega

/-- Where there are no line breaks, what is written is read as the lines that it is joined from. -/
theorem lines_markdown (hne : d.properties ≠ []) (htitle : lineBreaks title = 0)
    (hnames : d.nameBreaks = 0) (hcells : d.cellBreaks = 0) :
    lines (d.markdown title) = d.frontMatter title ++ d.tableLines := by
  have hfront := sum_lineBreaks_frontMatter hne htitle
  have htable := sum_lineBreaks_tableLines hne
  rw [hnames] at hfront
  rw [hnames, hcells] at htable
  refine lines_join (frontMatter_append_ne_nil _ _) fun line hline => ?_
  rcases List.mem_append.1 hline with hline | hline
  · exact List.sum_eq_zero_iff.1 hfront _ (List.mem_map_of_mem hline)
  · exact List.sum_eq_zero_iff.1 htable _ (List.mem_map_of_mem hline)

/-- The cells of the lines of a table: one for each property, and one more for each open bar of a name
or an escaped cell. -/
theorem map_cells_tableLines (e : Escaping) (hne : d.properties ≠ []) :
    (d.tableLines.map fun line => (e.cells line).length) =
      (d.properties.length + (d.properties.map fun p => e.openBars p.name).sum) ::
      d.properties.length ::
      d.rows.map fun row => d.properties.length +
        (d.properties.map fun p => if e = .paired then e.closedBars (row.shown p) else 0).sum := by
  have hrow (row : Row) :
      (e.cells (tableLine (d.properties.map fun p => escapeBars (row.shown p)))).length =
        d.properties.length +
          (d.properties.map fun p => if e = .paired then e.closedBars (row.shown p) else 0).sum := by
    rw [Escaping.length_cells_tableLine (mt List.map_eq_nil_iff.1 hne), List.length_map, List.map_map]
    exact congrArg (d.properties.length + ·.sum)
      (List.map_congr_left fun p _ => Escaping.openBars_escapeBars _)
  rw [tableLines_eq hne, List.map_cons, List.map_cons, Escaping.length_cells_dashes hne,
    Escaping.length_cells_tableLine (mt List.map_eq_nil_iff.1 hne), List.length_map, List.map_map,
    List.map_map]
  exact congrArg _ (congrArg _ (List.map_congr_left fun row _ => hrow row))

theorem nameBreaks_eq_zero_iff : d.nameBreaks = 0 ↔ ∀ p ∈ d.properties, lineBreaks p.name = 0 := by
  rw [nameBreaks, List.sum_eq_zero_iff, List.forall_mem_map]

theorem cellBreaks_eq_zero_iff :
    d.cellBreaks = 0 ↔ ∀ row ∈ d.rows, ∀ p ∈ d.properties, lineBreaks (row.shown p) = 0 := by
  simp only [cellBreaks, List.sum_eq_zero_iff, List.forall_mem_map]

theorem drop_lines_markdown (hne : d.properties ≠ []) (htitle : lineBreaks title = 0)
    (hnames : d.nameBreaks = 0) (hcells : d.cellBreaks = 0) :
    (lines (d.markdown title)).drop 6 = d.tableLines := by
  rw [lines_markdown hne htitle hnames hcells]
  exact List.drop_left' rfl

/-- The lines of a table have a cell for each property if no bar but those between cells divides
them. -/
theorem forall_cells_tableLines_iff (e : Escaping) (hne : d.properties ≠ []) :
    (∀ line ∈ d.tableLines, (e.cells line).length = d.properties.length) ↔
      (∀ p ∈ d.properties, e.openBars p.name = 0) ∧
      ∀ row ∈ d.rows, ∀ p ∈ d.properties, e = .paired → e.closedBars (row.shown p) = 0 := by
  have hmap : (∀ line ∈ d.tableLines, (e.cells line).length = d.properties.length) ↔
      ∀ n ∈ d.tableLines.map fun line => (e.cells line).length, n = d.properties.length := by
    rw [List.forall_mem_map]
  rw [hmap, map_cells_tableLines e hne]
  simp only [List.forall_mem_cons, List.forall_mem_map, Nat.add_eq_left, List.sum_eq_zero_iff,
    ite_eq_right_iff, true_and]

theorem tableShape_markdown_iff (e : Escaping) (hne : d.properties ≠ [])
    (htitle : lineBreaks title = 0) :
    d.TableShape e (d.markdown title) ↔ (d.nameBreaks = 0 ∧ d.cellBreaks = 0) ∧
      ∀ line ∈ d.tableLines, (e.cells line).length = d.properties.length := by
  have hlength := length_lines_markdown hne htitle
  constructor
  · rintro ⟨hlines, hcounts⟩
    have hbreaks : d.nameBreaks = 0 ∧ d.cellBreaks = 0 := by omega
    rw [drop_lines_markdown hne htitle hbreaks.1 hbreaks.2] at hcounts
    exact ⟨hbreaks, hcounts⟩
  · rintro ⟨⟨hnames, hcells⟩, hcounts⟩
    rw [← drop_lines_markdown hne htitle hnames hcells] at hcounts
    exact ⟨by omega, hcounts⟩

/-- A line break in a name makes two lines more, since names stand above the table too, and one in a
cell makes one line more. Where there are none, each line of the table has a cell for each property and
one for each open bar in a name; bars in cells are closed, but where backslashes go in pairs those that
were closed are open. So the table keeps its shape just if no name has a line break or an open bar, and
no cell has a line break or, where backslashes go in pairs, a closed bar. -/
theorem markdown_shape (hne : d.properties ≠ []) (htitle : lineBreaks title = 0) (e : Escaping) :
    (lines (d.markdown title)).length = 8 + d.rows.length + (2 * d.nameBreaks + d.cellBreaks) ∧
    (d.nameBreaks = 0 → d.cellBreaks = 0 →
      (((lines (d.markdown title)).drop 6).map fun line => (e.cells line).length) =
        (d.properties.length + (d.properties.map fun p => e.openBars p.name).sum) ::
        d.properties.length ::
        d.rows.map fun row => d.properties.length +
          (d.properties.map fun p => if e = .paired then e.closedBars (row.shown p) else 0).sum) ∧
    (d.TableShape e (d.markdown title) ↔
      (∀ p ∈ d.properties, lineBreaks p.name = 0 ∧ e.openBars p.name = 0) ∧
      ∀ row ∈ d.rows, ∀ p ∈ d.properties, lineBreaks (row.shown p) = 0 ∧
        (e = .paired → e.closedBars (row.shown p) = 0)) := by
  refine ⟨length_lines_markdown hne htitle, fun hnames hcells => ?_, ?_⟩
  · rw [drop_lines_markdown hne htitle hnames hcells, map_cells_tableLines e hne]
  · rw [tableShape_markdown_iff e hne htitle, forall_cells_tableLines_iff e hne, nameBreaks_eq_zero_iff,
      cellBreaks_eq_zero_iff]
    simp only [forall_and]
    tauto

/-- A table with a single cell. -/
def sheet (name text : String) : Document where
  properties := [.fresh "p" name .text]
  rows := [⟨"r", .ofList [("p", .text text)], .epoch, .epoch⟩]
  views := []

/-- A bar is escaped in a cell but not in a name, and line breaks are escaped nowhere. -/
theorem markdown_shape_sheet :
    (∀ name text, (sheet name text).properties ≠ []) ∧ lineBreaks "Notes" = 0 ∧
    (sheet "a" "c|d").TableShape .plain ((sheet "a" "c|d").markdown "Notes") ∧
    ¬ (sheet "a|b" "c").TableShape .plain ((sheet "a|b" "c").markdown "Notes") ∧
    ¬ (sheet "a" "c\nd").TableShape .plain ((sheet "a" "c\nd").markdown "Notes") ∧
    ¬ (sheet "a" "c\\|d").TableShape .paired ((sheet "a" "c\\|d").markdown "Notes") := by
  have hne (name text : String) : (sheet name text).properties ≠ [] := List.cons_ne_nil _ _
  have htitle : lineBreaks "Notes" = 0 := rfl
  refine ⟨hne, htitle, (markdown_shape (hne _ _) htitle _).2.2.2 (by decide), fun h => ?_, fun h => ?_,
    fun h => ?_⟩
  · obtain ⟨hnames, -⟩ := (markdown_shape (hne _ _) htitle _).2.2.1 h
    exact absurd (hnames _ List.mem_cons_self).2 (by decide)
  · obtain ⟨-, hcells⟩ := (markdown_shape (hne _ _) htitle _).2.2.1 h
    exact absurd (hcells _ List.mem_cons_self _ List.mem_cons_self).1 (by decide)
  · obtain ⟨-, hcells⟩ := (markdown_shape (hne _ _) htitle _).2.2.1 h
    exact absurd ((hcells _ List.mem_cons_self _ List.mem_cons_self).2 rfl) (by decide)

end Document

end Databook
