import Ambient.Proofs.Draft.Flat

/-!
# Reading declarations back

In a declaration file the header of a declaration stands at two blanks, its body at four, and its
last line at two again.  Nothing else about a line tells these apart, and nothing else is needed:
the lines of a file can be cut into declarations by their margins alone, whatever the descriptions
say.

## What is here

* `physicalLines text` — the text, cut at line feeds.
* `Group`, `Group.lines`, `Group.IsIndented` — a declaration in terms of such lines.
* `readGroups` — reads groups from lines by their margins, and `readGroups_flatMap_lines` — reads
  back what has been written.
* `Stanza.toGroup` — the group as which a declaration is written.
* `readDeclarations` — reads groups from a whole file.
* `groups_of_text` — the file of a draft is read back as what the draft declares.
* `declaredName header` — the name in a header; `declaredNames_preludePart`,
  `declaredNames_composites` — the names in the headers of the prelude and of the composite
  interfaces, which no other interface has.
-/

set_option autoImplicit false

namespace Ambient

open Text

/-! ## Lines and groups -/

/-- The lines of a text, cut at line feeds. -/
def physicalLines (text : String) : List (List Char) := text.toList.splitOn '\n'

theorem physicalLines_of_isFlat {s : String} (h : IsFlat s) : physicalLines s = [s.toList] :=
  List.splitOn_eq_singleton h

/-- The line is empty, or it begins with as many blanks. -/
def isIndented (width : Nat) (line : List Char) : Bool :=
  line.isEmpty || (List.replicate width ' ').isPrefixOf line

/-- A declaration as it stands in a file, its header without the margin. -/
structure Group where
  header : List Char
  body : List (List Char)
deriving Repr, BEq, DecidableEq

namespace Group

/-- The lines of the declaration. -/
def lines (g : Group) : List (List Char) :=
  (' ' :: ' ' :: g.header) :: g.body ++ [[' ', ' ', '}'], []]

/-- The header stands at just two blanks, and what is in the body at four or more. -/
structure IsIndented (g : Group) : Prop where
  header : ∃ c, g.header.head? = some c ∧ c ≠ ' '
  body : ∀ l ∈ g.body, isIndented 4 l = true

end Group

/-! ## Reading groups -/

/-- Reads groups, the first of which may be open already.  Where none is open, the next line that is
not empty opens one; where one is, the first line that is not indented like a body closes it. -/
def readFrom : Option Group → List (List Char) → List Group
  | begun, [] => begun.toList
  | none, line :: rest =>
    if line.isEmpty then readFrom none rest else readFrom (some ⟨line.drop 2, []⟩) rest
  | some g, line :: rest =>
    if isIndented 4 line then readFrom (some { g with body := g.body ++ [line] }) rest
    else g :: readFrom none rest

/-- Reads groups. -/
def readGroups : List (List Char) → List Group := readFrom none

/-- Lines that are indented like a body are added to the group that is open. -/
theorem readFrom_body (g : Group) {body : List (List Char)}
    (h : ∀ l ∈ body, isIndented 4 l = true) (rest : List (List Char)) :
    readFrom (some g) (body ++ rest) = readFrom (some { g with body := g.body ++ body }) rest := by
  induction body generalizing g with
  | nil => rw [List.nil_append, List.append_nil]
  | cons line more ih =>
    rw [List.forall_mem_cons] at h
    rw [List.cons_append, readFrom, if_pos h.1, ih _ h.2, List.append_assoc]
    rfl

/-- A group is read to its end. -/
theorem readFrom_lines {g : Group} (h : g.IsIndented) (rest : List (List Char)) :
    readFrom none (g.lines ++ rest) = g :: readFrom none rest := by
  have hheader : (' ' :: ' ' :: g.header).isEmpty = false := rfl
  have hlast : isIndented 4 [' ', ' ', '}'] = false := rfl
  have hempty : ([] : List Char).isEmpty = true := rfl
  rw [Group.lines, List.cons_append, List.cons_append, List.append_assoc, readFrom, hheader,
    if_neg Bool.false_ne_true, readFrom_body _ h.body, List.cons_append, readFrom, hlast,
    if_neg Bool.false_ne_true, List.cons_append, readFrom, hempty, if_pos rfl]
  rfl

/-- **Groups are read back from their lines.** -/
theorem readGroups_flatMap_lines {gs : List Group} (h : ∀ g ∈ gs, g.IsIndented) :
    readGroups (gs.flatMap Group.lines) = gs := by
  induction gs with
  | nil => rfl
  | cons g rest ih =>
    rw [List.forall_mem_cons] at h
    rw [List.flatMap_cons, readGroups, readFrom_lines h.1]
    exact congrArg (g :: ·) (ih h.2)

/-! ## Writing groups -/

/-- The group as which a declaration is written. -/
def Stanza.toGroup (s : Stanza) : Group where
  header := s.header.toList
  body := s.body.flatMap fun line => physicalLines (bodyLine line)

section

variable {s : Stanza} (h : s.IsTidy)

include h

theorem lines_toGroup : (group s.header s.body).flatMap physicalLines = s.toGroup.lines := by
  have hheader : physicalLines ("  " ++ s.header) = [' ' :: ' ' :: s.header.toList] := by
    rw [physicalLines_of_isFlat (IsFlat.append (by decide) h.header), String.toList_append]
    rfl
  rw [group, List.cons_append, List.flatMap_cons, hheader, List.flatMap_append, List.flatMap_map]
  rfl

/-- The lines of what hangs are indented like a body. -/
theorem isIndented_toGroup : s.toGroup.IsIndented := by
  refine ⟨h.opens, fun l hl => ?_⟩
  obtain ⟨line, hline, hl⟩ := List.mem_flatMap.1 hl
  rw [bodyLine] at hl
  split at hl
  · rw [List.mem_singleton.1 hl]
    rfl
  · obtain ⟨first, others, hlines⟩ := exists_splitOn line.toList
    have hmargin : '\n' ∉ "    ".toList := by decide
    rw [physicalLines, String.toList_append, splitOn_append hmargin hlines] at hl
    have hprefix : margin <+: l := by
      rcases List.mem_cons.1 hl with rfl | hl
      · exact List.prefix_append _ _
      · exact splitOn_hangs (h.body line hline) hlines l hl
    rw [isIndented, Bool.or_eq_true, List.isPrefixOf_iff_prefix]
    exact Or.inr hprefix

end

/-- Everything within the namespace is indented. -/
theorem isIndented_of_mem_lines {g : Group} (h : g.IsIndented) :
    ∀ l ∈ g.lines, isIndented 2 l = true := by
  have hbody (l : List Char) (hl : l ∈ g.body) : isIndented 2 l = true := by
    have hfour := h.body l hl
    rw [isIndented, Bool.or_eq_true, List.isPrefixOf_iff_prefix] at hfour ⊢
    refine hfour.imp_right fun hprefix => List.IsPrefix.trans ?_ hprefix
    exact ⟨[' ', ' '], rfl⟩
  rw [Group.lines, List.cons_append, List.forall_mem_cons, List.forall_mem_append]
  exact ⟨rfl, hbody, by decide⟩

/-! ## The rest of the file -/

/-- The line that opens the namespace. -/
def openingLine (space : String) : String := "declare namespace " ++ space ++ " \x7b"

/-- The prelude and the empty line behind it, if there is a prelude. -/
def preludePart (withPrelude : Bool) : List (List Char) :=
  (if withPrelude then preludeLines ++ [""] else []).flatMap physicalLines

theorem isFlat_openingLine {space : String} (h : IsFlat space) : IsFlat (openingLine space) :=
  (IsFlat.append (by decide) h).append (by decide)

theorem head?_openingLine (space : String) : (openingLine space).toList.head? = some 'd' :=
  head?_append (head?_append rfl space) " \x7b"

/-- The lines of the comment at the head are on one line each, whatever the comment is, and none of
them begins like the line that opens the namespace. -/
theorem isFlat_headLines (header : Option String) :
    ∀ l ∈ headLines header, IsFlat l ∧ l.toList.head? ≠ some 'd' := by
  have hline (line : List Char) (h : '\n' ∉ line) :
      IsFlat (headLine line) ∧ (headLine line).toList.head? ≠ some 'd' := by
    have hprefix := isPrefix_trimEnd (' ' :: '*' :: ' ' :: line)
    rw [IsFlat, headLine, String.toList_ofList]
    refine ⟨fun hmem => ?_, fun hhead => ?_⟩
    · have hmem := hprefix.subset hmem
      simp [h] at hmem
    · obtain ⟨rest, hrest⟩ := List.head?_eq_some_iff.1 hhead
      rw [hrest, List.cons_prefix_cons] at hprefix
      exact absurd hprefix.1 (by decide)
  cases header with
  | none => decide
  | some text =>
    have hends : ∀ l ∈ [" */", ""], IsFlat l ∧ l.toList.head? ≠ some 'd' := by decide
    rw [headLines, List.cons_append, List.forall_mem_cons, List.forall_mem_append]
    exact ⟨by decide, List.forall_mem_map.2 fun line hmem =>
      hline line (lineFeed_notMem_of_mem_lines hmem), hends⟩

/-! ## Reading a file -/

/-- The lines behind the one that opens the namespace, and behind the prelude if there is one. -/
def linesBehind (space : String) (withPrelude : Bool) (text : String) : List (List Char) :=
  ((physicalLines text).dropWhile (· != (openingLine space).toList)).drop
    (1 + (preludePart withPrelude).length)

/-- The groups in a file: up to the first line that is neither empty nor indented. -/
def readDeclarations (space : String) (withPrelude : Bool) (text : String) : List Group :=
  readGroups ((linesBehind space withPrelude text).takeWhile (isIndented 2))

/-- What stands behind the first line that opens the namespace, and behind the prelude. -/
theorem linesBehind_eq {space text : String} {withPrelude : Bool}
    {front behind : List (List Char)} (hfront : (openingLine space).toList ∉ front)
    (htext : physicalLines text = front ++ (openingLine space).toList ::
      (preludePart withPrelude ++ behind)) :
    linesBehind space withPrelude text = behind := by
  have hskip : ∀ l ∈ front, (l != (openingLine space).toList) = true := fun l hl =>
    bne_iff_ne.2 fun heq => hfront (heq ▸ hl)
  rw [linesBehind, htext, List.dropWhile_append_of_pos hskip,
    List.dropWhile_cons_of_neg (by simp), Nat.add_comm, List.drop_succ_cons]
  exact List.drop_left

theorem flatMap_physicalLines {ls : List String} (h : ∀ l ∈ ls, IsFlat l) :
    ls.flatMap physicalLines = ls.map String.toList := by
  induction ls with
  | nil => rfl
  | cons l rest ih =>
    rw [List.forall_mem_cons] at h
    rw [List.flatMap_cons, physicalLines_of_isFlat h.1, ih h.2]
    rfl

/-- The groups of what a draft declares. -/
def Declarations.toGroups (d : Declarations) (terminator : String) : List Group :=
  (d.stanzas terminator).map Stanza.toGroup

section

variable {draft : Draft} {d : Declarations} (h : draft.IsFlat) (hbuild : draft.build = .ok d)

include h hbuild

theorem flatMap_flatten_groups :
    (d.groups draft.terminator).flatten.flatMap physicalLines
      = (d.toGroups draft.terminator).flatMap Group.lines := by
  have htidy := isTidy_of_build h hbuild
  rw [groups_eq_map_stanzas, Declarations.toGroups]
  generalize d.stanzas draft.terminator = stanzas at htidy
  induction stanzas with
  | nil => rfl
  | cons s rest ih =>
    rw [List.forall_mem_cons] at htidy
    rw [List.map_cons, List.flatten_cons, List.flatMap_append, lines_toGroup htidy.1, ih htidy.2,
      List.map_cons, List.flatMap_cons]

theorem isIndented_toGroups : ∀ g ∈ d.toGroups draft.terminator, g.IsIndented :=
  List.forall_mem_map.2 fun s hs => isIndented_toGroup (isTidy_of_build h hbuild s hs)

/-- The lines of the file. -/
theorem exists_physicalLines :
    ∃ text back, draft.text = .ok text ∧
      physicalLines text = (headLines draft.header).map String.toList ++
        (openingLine draft.space).toList :: (preludePart draft.withPrelude ++
          ((d.toGroups draft.terminator).flatMap Group.lines ++ ['}'] :: back)) := by
  have hne : draft.linesFor d ≠ [] := by simp [Draft.linesFor, headLines]
  refine ⟨String.intercalate "\n" (draft.linesFor d) ++ "\n",
    [] :: ((footLines draft.specifier draft.space).flatMap physicalLines ++ [[]]), ?_, ?_⟩
  · rw [Draft.text, Draft.lines, hbuild]
    rfl
  · have hhead := flatMap_physicalLines fun l hl => (isFlat_headLines draft.header l hl).1
    have hopening := physicalLines_of_isFlat (isFlat_openingLine h.space)
    have hlines : physicalLines (String.intercalate "\n" (draft.linesFor d) ++ "\n")
        = (draft.linesFor d).flatMap physicalLines ++ [[]] := by
      rw [physicalLines, toList_unlines _ hne, splitOn_unlines]
      rfl
    have hparts : draft.linesFor d = headLines draft.header ++ ([openingLine draft.space] ++
        ((if draft.withPrelude then preludeLines ++ [""] else []) ++
          ((d.groups draft.terminator).flatten ++
            (["\x7d", ""] ++ footLines draft.specifier draft.space)))) := by
      simp only [Draft.linesFor, List.append_assoc]
      rfl
    rw [hlines, hparts, List.flatMap_append, List.flatMap_append, List.flatMap_append,
      List.flatMap_append, List.flatMap_append, hhead, flatMap_flatten_groups h hbuild,
      List.flatMap_singleton, hopening]
    simp only [List.append_assoc]
    rfl

end

/-- **The file of a draft is read back as what the draft declares**, by the margins of its lines
alone.  Behind the line that opens the namespace, of which there is none in the comment at the head,
and behind the prelude stand the lines of one group for each block, each interned interface and each
composite interface, in this order; and then the line that closes the namespace, the first that is
neither empty nor indented.  The header of each group is indented by two blanks and the lines of its
body by four or more, unless they are empty, so that the groups can be read from these lines. -/
theorem groups_of_text {draft : Draft} {d : Declarations} (h : draft.IsFlat)
    (hbuild : draft.build = .ok d) :
    ∃ text front back, draft.text = .ok text ∧
      physicalLines text = front ++ (openingLine draft.space).toList ::
        (preludePart draft.withPrelude ++ linesBehind draft.space draft.withPrelude text) ∧
      (openingLine draft.space).toList ∉ front ∧
      (linesBehind draft.space draft.withPrelude text).takeWhile (isIndented 2)
        = (d.toGroups draft.terminator).flatMap Group.lines ∧
      (linesBehind draft.space draft.withPrelude text).dropWhile (isIndented 2) = ['}'] :: back ∧
      (∀ g ∈ d.toGroups draft.terminator, g.IsIndented) ∧
      (d.toGroups draft.terminator).map Group.header
        = (d.blocks.toList.map Block.header ++ d.interfaces.map Interface.header ++
          d.composites.toList.map Composite.header).map String.toList ∧
      readDeclarations draft.space draft.withPrelude text = d.toGroups draft.terminator := by
  obtain ⟨text, back, htext, hlines⟩ := exists_physicalLines h hbuild
  have hindented := isIndented_toGroups h hbuild
  have hfront : (openingLine draft.space).toList ∉ (headLines draft.header).map String.toList :=
    fun hmem => by
      obtain ⟨l, hl, heq⟩ := List.mem_map.1 hmem
      exact (isFlat_headLines draft.header l hl).2 (heq ▸ head?_openingLine draft.space)
  have hbehind := linesBehind_eq hfront hlines
  have hwithin : ∀ l ∈ (d.toGroups draft.terminator).flatMap Group.lines,
      isIndented 2 l = true := fun l hl => by
    obtain ⟨g, hg, hl⟩ := List.mem_flatMap.1 hl
    exact isIndented_of_mem_lines (hindented g hg) l hl
  have hclose : isIndented 2 ['}'] = false := rfl
  have htake : (linesBehind draft.space draft.withPrelude text).takeWhile (isIndented 2)
      = (d.toGroups draft.terminator).flatMap Group.lines := by
    rw [hbehind, List.takeWhile_append_of_pos hwithin,
      List.takeWhile_cons_of_neg (by simp [hclose]), List.append_nil]
  refine ⟨text, _, back, htext, hbehind.symm ▸ hlines, hfront, htake, ?_, hindented, ?_, ?_⟩
  · rw [hbehind, List.dropWhile_append_of_pos hwithin,
      List.dropWhile_cons_of_neg (by simp [hclose])]
  · simp only [Declarations.toGroups, Declarations.stanzas, List.map_append, List.map_map]
    rfl
  · rw [readDeclarations, htake, readGroups_flatMap_lines hindented]

/-- An event with two arguments, which is described.  The comment at the head looks like a
namespace. -/
def announcing : Draft where
  modules := [{ name := "app", events := [
    { name := "quit", description := some "It ends."
      arguments := [{ name := "code" }, { name := "why" }] }] }]
  header := some "declare namespace Electron \x7b\n\x7d"
  withPrelude := false

theorem isFlat_announcing : announcing.IsFlat := by
  have hvalue {name : String} (hname : IsFlat name) : Param.IsFlat { name := name } := by
    have htype : ∀ n ∈ TypeRef.unknown.names, IsFlat n := by
      rw [TypeRef.unknown, TypeRef.names]
      decide
    exact .intro ⟨hname, htype, List.forall_mem_nil _⟩ (List.forall_mem_nil _)
      (List.forall_mem_nil _) fun q hq => by cases hq
  have hevent : ∀ event ∈ announcing.modules.flatMap Module.events, event.IsFlat := by
    refine List.forall_mem_singleton.2 ⟨(by decide : IsFlat "quit"), ?_⟩
    exact List.forall_mem_cons.2 ⟨hvalue (by decide),
      List.forall_mem_singleton.2 (hvalue (by decide))⟩
  have hmodule : ∀ m ∈ announcing.modules, m.IsFlat := by
    refine List.forall_mem_singleton.2 ⟨(by decide : IsFlat "app"), (by decide : IsFlat ""), ?_,
      List.forall_mem_nil _, List.forall_mem_nil _, hevent⟩
    exact fun c hc => by cases hc
  refine ⟨hmodule, (by decide : IsFlat "Electron"), (by decide : IsFlat ";"), ?_, ?_⟩
  · exact ⟨(by decide : IsFlat "EventEmitter"), by decide⟩
  · have hspellings : ∀ e ∈ TypeMap.builtin.spellings.entries, IsFlat e.2 := by decide +kernel
    exact hspellings

/-- Header and body of a group. -/
def Group.texts (g : Group) : String × List String :=
  (String.ofList g.header, g.body.map String.ofList)

/-- The declarations of its file.  The second argument of the listener belongs to the body. -/
def announced : List (String × List String) := [
  ("interface App extends EventEmitter \x7b", [
    "",
    "    // Docs: ",
    "",
    "    /**",
    "     * It ends.",
    "     */",
    "    on(event: 'quit', listener: (code: any,",
    "                                 why: any) => void): this;"]),
  ("interface CommonInterface \x7b", []),
  ("interface MainInterface extends CommonInterface \x7b", []),
  ("interface RendererInterface extends CommonInterface \x7b", []),
  ("interface AllElectron \x7b", [])]

theorem groups_of_text_announcing :
    announcing.IsFlat ∧ ∃ text, announcing.text = .ok text ∧
      (readDeclarations "Electron" false text).map Group.texts = announced := by
  have hfacts : announcing.build.toOption.map (fun d => (d.toGroups ";").map Group.texts)
      = some announced := by
    decide +kernel
  obtain ⟨d, hbuild, hgroups⟩ := exists_of_map_build hfacts
  obtain ⟨text, -, -, htext, -, -, -, -, -, -, hread⟩ := groups_of_text isFlat_announcing hbuild
  have hsame : readDeclarations "Electron" false text = d.toGroups ";" := hread
  exact ⟨isFlat_announcing, text, htext, hsame ▸ hgroups⟩

/-! ## The names that are declared -/

/-- The name in a header, which is its second word. -/
def declaredName (header : List Char) : String := String.ofList ((words header)[1]?.getD [])

/-- **The prelude declares the names that are reserved for it.** -/
theorem declaredNames_preludePart :
    (readGroups (preludePart true)).map (fun g => declaredName g.header) = Draft.preludeNames := by
  simp only [preludePart, preludeLines, if_true, List.cons_append, List.nil_append,
    List.flatMap_cons, List.flatMap_nil, physicalLines]
  -- The lines as lists of characters, so that nothing has to be decoded.
  repeat rw [String.toList_ofList]
  rfl

/-- **The composite interfaces declare the names that are reserved for them**, whatever their
properties are. -/
theorem declaredNames_composites (es : List Exposed) :
    (Composites.ofExposures es).toList.map (fun c => declaredName c.header.toList)
      = Composites.names := by
  have hheaders : (Composites.ofExposures es).toList.map Composite.header =
      ["interface CommonInterface \x7b", "interface MainInterface extends CommonInterface \x7b",
        "interface RendererInterface extends CommonInterface \x7b", "interface AllElectron \x7b"] :=
    rfl
  have hnames := congrArg (List.map fun header => declaredName header.toList) hheaders
  rw [List.map_map] at hnames
  refine hnames.trans ?_
  simp only [List.map_cons, List.map_nil]
  repeat rw [String.toList_ofList]
  rfl

/-- No interface of a draft has a name that the prelude or a composite interface declares. -/
theorem name_notMem_declaredNames {draft : Draft} {d : Declarations} (h : draft.build = .ok d)
    {i : Interface} (hi : i ∈ d.interfaces) :
    i.name ∉ (readGroups (preludePart true)).map (fun g => declaredName g.header) ∧
      i.name ∉ d.composites.toList.map fun c => declaredName c.header.toList := by
  have hfree := name_notMem_reservedNames h hi
  rw [Draft.reservedNames, List.mem_append, List.mem_append, not_or, not_or] at hfree
  obtain ⟨-, -, -, hcomposites⟩ := exists_of_build_eq_ok h
  rw [declaredNames_preludePart, hcomposites, Composites.ofModules, declaredNames_composites]
  exact ⟨hfree.1.2, hfree.2⟩

end Ambient
