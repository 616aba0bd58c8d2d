import Enrich.CommandLine.Run
import Enrich.Proofs.Except
import Enrich.Proofs.Json.Written
import Enrich.Proofs.Ordered.Map

/-!
# Reading nodes back

What is written for some nodes is read as these nodes again. `Reads` says so of a reader and a
writer of one kind of part; it holds for strings, and so for attributes, tags and nodes
(`reads_node`) and for the list of them that a run prints (`readNodes_written`).
-/

namespace Enrich

theorem StringMap.ofList_entries {β : Type} (m : StringMap β) : StringMap.ofList m.entries = m :=
  StringMap.ext_find? fun x =>
    (StringMap.find?_insertAll m.ordered x).trans Option.or_none

theorem StringSet.ofList_toList (s : StringSet) : StringSet.ofList s.toList = s :=
  StringSet.ext_mem fun x =>
    StringSet.mem_insertAll.trans (or_iff_left (StringSet.not_mem_empty x))

namespace Node.Reader

open Json (Fault Scanned StartsPart skip skip_space pretty prettyItems prettyMembers newLine
  writeString)

variable {α : Type} {read : List Char → Except Fault (Scanned α)} {toJson : α → Json}
  {level : Nat} {rest : List Char}

/-- Whether a reader gives back every part that was written, also from behind blanks. Such a part is
a string, an array or an object. -/
structure Reads (read : List Char → Except Fault (Scanned α)) (toJson : α → Json) : Prop where
  startsPart (level : Nat) (x : α) : StartsPart (pretty level (toJson x))
  read_eq {level : Nat} {x : α} {text rest : List Char}
    (h : skip text = pretty level (toJson x) ++ rest) : read text = .ok (x, rest)

theorem Reads.read_pretty (h : Reads read toJson) (level : Nat) (x : α) (rest : List Char) :
    read (pretty level (toJson x) ++ rest) = .ok (x, rest) :=
  h.read_eq ((h.startsPart level x).append rest).skip_eq

theorem Reads.read_space (h : Reads read toJson) (level : Nat) (x : α) (rest : List Char) :
    read (' ' :: (pretty level (toJson x) ++ rest)) = .ok (x, rest) :=
  h.read_eq ((skip_space _).trans ((h.startsPart level x).append rest).skip_eq)

theorem reads_string : Reads string .str where
  startsPart _ s := Json.startsPart_pretty_str s
  read_eq {level s text rest} h := by
    rw [string, h, Json.pretty_str_append]
    exact Json.scanString_escaped s rest

/-! ## Arrays -/

/-- Behind an item the others are read, up to the end of their array. -/
theorem items_prettyItems (h : Reads read toJson) (level : Nat) (rest : List Char) {xs : List α}
    {fuel : Nat} (hfuel : xs.length < fuel) :
    items read fuel false (prettyItems level (xs.map toJson) ++ rest) =
      .ok (xs, newLine level ++ ']' :: rest) := by
  induction xs generalizing fuel with
  | nil =>
    obtain ⟨fuel, rfl⟩ := Nat.exists_eq_add_of_lt hfuel
    rw [List.map_nil, Json.prettyItems_nil_append, items, Json.nextItem?_end]
    rfl
  | cons x xs ih =>
    cases fuel with
    | zero => cases hfuel
    | succ fuel =>
      have hrest := ih (Nat.lt_of_succ_lt_succ hfuel)
      rw [List.map_cons, Json.prettyItems_cons_append, items]
      exact bind_eq_ok.mpr ⟨_, Json.nextItem?_next ((h.startsPart _ x).append _),
        bind_eq_ok.mpr ⟨_, h.read_pretty _ x _, bind_eq_ok.mpr ⟨_, hrest, rfl⟩⟩⟩

theorem items_pretty (h : Reads read toJson) (level : Nat) (x : α) (xs : List α)
    (rest : List Char) :
    let text := newLine (level + 1) ++
      (pretty (level + 1) (toJson x) ++ (prettyItems level (xs.map toJson) ++ rest))
    items read (text.length + 1) true text = .ok (x :: xs, newLine level ++ ']' :: rest) := by
  intro text
  have hlength : xs.length < text.length := by
    have := Json.length_lt_prettyItems level (xs.map toJson)
    simp only [text, List.length_append, List.length_map] at this ⊢
    omega
  have hrest := items_prettyItems h level rest hlength
  rw [items]
  exact bind_eq_ok.mpr ⟨_, Json.nextItem?_first ((h.startsPart _ x).append _),
    bind_eq_ok.mpr ⟨_, h.read_pretty _ x _, bind_eq_ok.mpr ⟨_, hrest, rfl⟩⟩⟩

theorem reads_array (h : Reads read toJson) :
    Reads (array read) fun xs => .arr (xs.map toJson) where
  startsPart _ xs := Json.startsPart_pretty_arr (xs.map toJson)
  read_eq {level xs text rest} hskip := by
    cases xs with
    | nil =>
      rw [array, hskip]
      rfl
    | cons x xs =>
      rw [array, hskip, List.map_cons, Json.pretty_arr_cons_append]
      exact bind_eq_ok.mpr ⟨_, items_pretty h level x xs rest,
        bind_eq_ok.mpr ⟨_, Json.scanEnd_newLine rfl, rfl⟩⟩

/-- Tags are read as they were written. -/
theorem reads_tags : Reads tags StringSet.toJson where
  startsPart level s := (reads_array reads_string).startsPart level s.toList
  read_eq {level s text rest} hskip := by
    have harray := (reads_array reads_string).read_eq hskip
    have hset := StringSet.ofList_toList s
    exact bind_eq_ok.mpr ⟨_, harray, congrArg (fun s => Except.ok (s, rest)) hset⟩

/-! ## Objects -/

/-- The members that write some entries. -/
abbrev stringMember (entry : String × String) : String × Json :=
  (entry.1, .str entry.2)

/-- Behind a member the others are read, up to the end of their object. -/
theorem stringMembers_prettyMembers (level : Nat) (rest : List Char)
    {entries : List (String × String)} {fuel : Nat} (hfuel : entries.length < fuel) :
    stringMembers fuel false (prettyMembers level (entries.map stringMember) ++ rest) =
      .ok (entries, newLine level ++ '\x7d' :: rest) := by
  induction entries generalizing fuel with
  | nil =>
    obtain ⟨fuel, rfl⟩ := Nat.exists_eq_add_of_lt hfuel
    rw [List.map_nil, Json.prettyMembers_nil_append, stringMembers, Json.nextMember?_end]
    rfl
  | cons entry entries ih =>
    cases fuel with
    | zero => cases hfuel
    | succ fuel =>
      have hrest := ih (Nat.lt_of_succ_lt_succ hfuel)
      rw [List.map_cons, Json.prettyMembers_cons_append, stringMembers]
      exact bind_eq_ok.mpr ⟨_, Json.nextMember?_next entry.1 _,
        bind_eq_ok.mpr ⟨_, Json.scanColon_colon _,
          bind_eq_ok.mpr ⟨_, reads_string.read_space _ entry.2 _,
            bind_eq_ok.mpr ⟨_, hrest, rfl⟩⟩⟩⟩

theorem stringMembers_pretty (level : Nat) (entry : String × String)
    (entries : List (String × String)) (rest : List Char) :
    let text := newLine (level + 1) ++ (writeString entry.1 ++ ':' :: ' ' ::
      (pretty (level + 1) (.str entry.2) ++
        (prettyMembers level (entries.map stringMember) ++ rest)))
    stringMembers (text.length + 1) true text =
      .ok (entry :: entries, newLine level ++ '\x7d' :: rest) := by
  intro text
  have hlength : entries.length < text.length := by
    have := Json.length_lt_prettyMembers level (entries.map stringMember)
    simp only [text, List.length_append, List.length_cons, List.length_map] at this ⊢
    omega
  have hrest := stringMembers_prettyMembers level rest hlength
  rw [stringMembers]
  exact bind_eq_ok.mpr ⟨_, Json.nextMember?_first entry.1 _,
    bind_eq_ok.mpr ⟨_, Json.scanColon_colon _,
      bind_eq_ok.mpr ⟨_, reads_string.read_space _ entry.2 _, bind_eq_ok.mpr ⟨_, hrest, rfl⟩⟩⟩⟩

/-- Attributes are read as they were written. -/
theorem reads_attributes : Reads attributes Attributes.toJson where
  startsPart _ _ := Json.startsPart_pretty_obj _
  read_eq {level m text rest} hskip := by
    have hmap := StringMap.ofList_entries m
    obtain ⟨entries, ordered⟩ := m
    cases entries with
    | nil =>
      rw [attributes, hskip]
      rfl
    | cons entry entries =>
      rw [attributes, hskip, Attributes.toJson, List.map_cons, Json.pretty_obj_cons_append]
      exact bind_eq_ok.mpr ⟨_, stringMembers_pretty level entry entries rest,
        bind_eq_ok.mpr ⟨_, Json.scanEnd_newLine rfl, congrArg (fun m => Except.ok (m, rest)) hmap⟩⟩

/-! ## Nodes -/

variable {found : Found} {fuel : Nat} {first : Bool} {text : List Char}

theorem nodeMembers_name {name : String} {behind : List Char} (hname : found.name = none)
    (hnext : Json.nextMember? first text = .ok (some ("name", ':' :: rest)))
    (hread : string rest = .ok (name, behind)) :
    nodeMembers found (fuel + 1) first text =
      nodeMembers { found with name := some name } fuel false behind := by
  rw [nodeMembers, hnext]
  change (if found.name.isSome then _ else Json.scanColon _ >>= _) = _
  rw [hname, Json.scanColon_colon]
  change string rest >>= _ = _
  rw [hread]
  rfl

theorem nodeMembers_attributes {m : Attributes} {behind : List Char}
    (hattributes : found.attributes = none)
    (hnext : Json.nextMember? first text = .ok (some ("attributes", ':' :: rest)))
    (hread : attributes rest = .ok (m, behind)) :
    nodeMembers found (fuel + 1) first text =
      nodeMembers { found with attributes := some m } fuel false behind := by
  rw [nodeMembers, hnext]
  change (if found.attributes.isSome then _ else Json.scanColon _ >>= _) = _
  rw [hattributes, Json.scanColon_colon]
  change attributes rest >>= _ = _
  rw [hread]
  rfl

theorem nodeMembers_tags {s : StringSet} {behind : List Char} (htags : found.tags = none)
    (hnext : Json.nextMember? first text = .ok (some ("tags", ':' :: rest)))
    (hread : tags rest = .ok (s, behind)) :
    nodeMembers found (fuel + 1) first text =
      nodeMembers { found with tags := some s } fuel false behind := by
  rw [nodeMembers, hnext]
  change (if found.tags.isSome then _ else Json.scanColon _ >>= _) = _
  rw [htags, Json.scanColon_colon]
  change tags rest >>= _ = _
  rw [hread]
  rfl

theorem nodeMembers_end {n : Node} (hnode : found.node? = .ok n) (level : Nat)
    (rest : List Char) :
    nodeMembers found (fuel + 1) first (newLine level ++ '\x7d' :: rest) =
      .ok (n, newLine level ++ '\x7d' :: rest) := by
  rw [nodeMembers]
  exact bind_eq_ok.mpr ⟨_, Json.nextMember?_end first rest, bind_eq_ok.mpr ⟨n, hnode, rfl⟩⟩

theorem nodeMembers_pretty (n : Node) (level : Nat) (rest : List Char) :
    let text := newLine (level + 1) ++ (writeString "name" ++ ':' :: ' ' ::
      (pretty (level + 1) (.str n.name) ++ (prettyMembers level
        [("attributes", n.attributes.toJson), ("tags", n.tags.toJson)] ++ rest)))
    nodeMembers {} (text.length + 1) true text = .ok (n, newLine level ++ '\x7d' :: rest) := by
  intro text
  have hlength : 3 ≤ text.length := by
    simp only [text, writeString, List.length_append, List.length_cons]
    omega
  obtain ⟨fuel, hfuel⟩ := Nat.exists_eq_add_of_le' hlength
  rw [hfuel, nodeMembers_name rfl (Json.nextMember?_first "name" _)
      (reads_string.read_space _ n.name _),
    Json.prettyMembers_cons_append,
    nodeMembers_attributes rfl (Json.nextMember?_next "attributes" _)
      (reads_attributes.read_space _ n.attributes _),
    Json.prettyMembers_cons_append,
    nodeMembers_tags rfl (Json.nextMember?_next "tags" _) (reads_tags.read_space _ n.tags _),
    Json.prettyMembers_nil_append]
  exact nodeMembers_end rfl level rest

/-- A node is read as it was written. -/
theorem reads_node : Reads node Node.toJson where
  startsPart _ _ := Json.startsPart_pretty_obj _
  read_eq {level n text rest} hskip := by
    rw [node, hskip, Node.toJson, Json.pretty_obj_cons_append]
    exact bind_eq_ok.mpr ⟨_, nodeMembers_pretty n level rest,
      bind_eq_ok.mpr ⟨_, Json.scanEnd_newLine rfl, rfl⟩⟩

end Node.Reader

/-- Written nodes are read back, whatever blanks stand behind them. -/
theorem Node.read_write_append (nodes : List Node) {blank : List Char}
    (hblank : Json.skip blank = []) :
    Node.read (Node.write nodes ++ String.ofList blank) = .ok nodes := by
  have hnodes := (Node.Reader.reads_array Node.Reader.reads_node).read_pretty 0 nodes blank
  have hempty : (Json.skip blank).isEmpty = true := by rw [hblank, List.isEmpty_nil]
  rw [Node.read, Node.write, Json.toPretty, String.toList_append, String.toList_ofList,
    String.toList_ofList]
  exact bind_eq_ok.mpr ⟨_, hnodes, if_pos hempty⟩

/-- A file of a text holds that text. -/
theorem Found.text?_file_toUTF8 (text : String) : (Found.file text.toUTF8).text? = some text :=
  dif_pos text.isValidUTF8

namespace CommandLine

theorem read_written_json (before nodes : List Node) (stats : Pipeline.Stats) :
    Node.read (written .json before nodes stats) = .ok nodes :=
  Node.read_write_append nodes (by decide : Json.skip ['\n'] = [])

/-- **Nodes printed as JSON are read back**, all of them and in the same order, from a file of what
was printed. -/
theorem readNodes_written (files : Files) (path : String) (before nodes : List Node)
    (stats : Pipeline.Stats)
    (hfile : files path = .file (written .json before nodes stats).toUTF8) :
    readNodes files path = .ok nodes := by
  rw [readNodes, hfile, Found.text?_file_toUTF8]
  exact mapError_eq_ok.mpr (read_written_json before nodes stats)

/-- Quotes, a backslash, a control character and a line end are written as escapes. -/
theorem readNodes_written_escapes :
    ∃ (files : Files) (nodes : List Node),
      nodes = [⟨"\"é\\\x01", StringMap.ofList [("a\n", "")], StringSet.ofList ["t"]⟩, ⟨"", ∅, ∅⟩] ∧
      files "nodes.json" = .file (written .json [] nodes ⟨2, 0⟩).toUTF8 ∧
      readNodes files "nodes.json" = .ok nodes :=
  ⟨fun _ => .file (written .json [] _ ⟨2, 0⟩).toUTF8, _, rfl, rfl,
    readNodes_written _ _ [] _ ⟨2, 0⟩ rfl⟩

/-- What a run printed as JSON can be given to another run: it reads the nodes that the pipeline of
the first one made. -/
theorem exists_readNodes_of_apply {files files' : Files}
    {nodesPath configPath project path : String} {printed : Printed}
    (happly : apply files nodesPath configPath project .json = .ok printed)
    (hfile : files' path = .file printed.output.toUTF8) :
    ∃ c p nodes, loadPipeline files configPath = .ok (c, p) ∧
      readNodes files nodesPath = .ok nodes ∧
      readNodes files' path = .ok (p.apply project nodes).1 := by
  obtain ⟨⟨c, p⟩, hpipeline, happly⟩ := bind_eq_ok.mp happly
  obtain ⟨nodes, hnodes, happly⟩ := bind_eq_ok.mp happly
  obtain ⟨stats, -, hprinted⟩ := bind_eq_ok.mp happly
  cases hprinted
  refine ⟨c, p, nodes, hpipeline, hnodes, ?_⟩
  rw [readNodes, hfile, Found.text?_file_toUTF8]
  exact mapError_eq_ok.mpr (read_written_json nodes _ stats)

end CommandLine

end Enrich
