import Courier.Graph.Diagram
import Courier.Proofs.Graph.Cycle
import Courier.Proofs.Number.Numeral
import Mathlib.Data.List.Forall2

/-! What a diagram tells about its graph.
The text of a diagram is read back: the line ends cut it into lines, the double quotes cut the line of a
box into the name with the opening bracket, the label and the closing bracket. No label holds either
character, so none can pass for what stands around it. -/
namespace Courier

namespace Text

variable {sep : Char} {as bs : List Char}

theorem cutChars_append_cons (h : sep ∉ as) (rest : List Char) :
    cutChars sep (as ++ sep :: rest) = (as, some rest) := by
  induction as with
  | nil => exact if_pos rfl
  | cons a as ih =>
    obtain ⟨ha, has⟩ := not_or.mp (List.mem_cons.not.mp h)
    rw [List.cons_append, cutChars, if_neg (Ne.symm ha), ih has]

/-- What stands in front of the first separator, and what stands behind it. -/
theorem append_cons_inj {rest rest' : List Char} (ha : sep ∉ as) (hb : sep ∉ bs)
    (h : as ++ sep :: rest = bs ++ sep :: rest') : as = bs ∧ rest = rest' := by
  have hcut := congrArg (cutChars sep) h
  rw [cutChars_append_cons ha, cutChars_append_cons hb] at hcut
  exact ⟨congrArg Prod.fst hcut, Option.some.inj (congrArg Prod.snd hcut)⟩

end Text

namespace Graph

namespace Diagram

theorem toList_joinLines_cons (l : String) (ls : List String) :
    (joinLines (l :: ls)).toList = l.toList ++ '\n' :: (joinLines ls).toList := by
  simp [joinLines, String.toList_append]

theorem joinLines_append (ls ms : List String) : joinLines (ls ++ ms) = joinLines ls ++ joinLines ms := by
  rw [joinLines, List.map_append, String.join_append, joinLines, joinLines]

/-- The lines of a text are known from the text. -/
theorem joinLines_inj {ls ms : List String} (hls : ∀ l ∈ ls, '\n' ∉ l.toList)
    (hms : ∀ m ∈ ms, '\n' ∉ m.toList) (h : joinLines ls = joinLines ms) : ls = ms := by
  have hnil (l : String) (ls : List String) : joinLines [] ≠ joinLines (l :: ls) := by
    intro heq
    have hlist := congrArg String.toList heq
    rw [toList_joinLines_cons] at hlist
    exact absurd hlist.symm (List.append_ne_nil_of_right_ne_nil _ (List.cons_ne_nil _ _))
  induction ls generalizing ms with
  | nil =>
    cases ms with
    | nil => rfl
    | cons m ms => exact absurd h (hnil m ms)
  | cons l ls ih =>
    cases ms with
    | nil => exact absurd h.symm (hnil l ls)
    | cons m ms =>
      obtain ⟨hl, hls⟩ := List.forall_mem_cons.mp hls
      obtain ⟨hm, hms⟩ := List.forall_mem_cons.mp hms
      have hlist := congrArg String.toList h
      rw [toList_joinLines_cons, toList_joinLines_cons] at hlist
      obtain ⟨hhead, htail⟩ := Text.append_cons_inj hl hm hlist
      rw [String.toList_injective hhead, ih hls hms (String.toList_injective htail)]

/-! ### Names and labels -/

theorem ne_of_mem_nodeName {i : Int} {c : Char} (hc : c ∈ (nodeName i).toList) :
    c ≠ '\n' ∧ c ≠ '"' := by
  rw [nodeName, String.toList_append] at hc
  rcases List.mem_append.mp hc with hc | hc
  · obtain rfl : c = 'n' := List.mem_singleton.mp hc
    decide
  · rcases Numeral.isDigit_or_minus hc with hc | rfl
    · exact ⟨Numeral.isDigit_ne hc rfl, Numeral.isDigit_ne hc rfl⟩
    · decide

theorem nodeName_injective {i j : Int} (h : nodeName i = nodeName j) : i = j :=
  Numeral.toString_injective ((String.append_right_inj "n").mp h)

theorem done_ne_nodeName (i : Int) : "done" ≠ nodeName i := by
  intro h
  have hhead := congrArg (fun s => s.toList.head?) h
  rw [nodeName, String.toList_append] at hhead
  exact absurd (Option.some.inj hhead) (by decide)

theorem targetName_injective {i j : Int} (h : targetName i = targetName j) : i = j := by
  unfold targetName at h
  split_ifs at h with hi hj hj
  · rw [hi, hj]
  · exact absurd h (done_ne_nodeName j)
  · exact absurd h.symm (done_ne_nodeName i)
  · exact nodeName_injective h

theorem newline_not_mem_targetName (i : Int) : '\n' ∉ (targetName i).toList := by
  unfold targetName
  split_ifs
  · decide
  · exact fun hc => (ne_of_mem_nodeName hc).1 rfl

/-- A text as a diagram shows it, with a single quote in place of each double one. -/
def shown (text : String) : List Char := text.toList.map fun c => if c = '"' then '\'' else c

theorem escape_eq_iff {s t : String} : escape s = escape t ↔ shown s = shown t := by
  have hshown (s : String) : (escape s).toList = shown s := by
    rw [escape, Text.replaceChar, String.toList_ofList, shown, List.map_eq_flatMap]
    apply List.flatMap_congr
    intro c _
    exact (apply_ite (fun d => [d]) (c = '"') '\'' c).symm
  rw [← String.toList_inj, hshown, hshown]

theorem mem_escape {s : String} {c : Char} (hc : c ∈ (escape s).toList) :
    c ≠ '"' ∧ (c ∈ s.toList ∨ c = '\'') := by
  rw [escape, Text.replaceChar, String.toList_ofList, List.mem_flatMap] at hc
  obtain ⟨d, hd, hc⟩ := hc
  split_ifs at hc with hquote
  · obtain rfl := List.mem_singleton.mp hc
    exact ⟨by decide, .inr rfl⟩
  · obtain rfl := List.mem_singleton.mp hc
    exact ⟨hquote, .inl hd⟩

theorem newline_not_mem_escape {s : String} (h : '\n' ∉ s.toList) : '\n' ∉ (escape s).toList := by
  intro hc
  rcases (mem_escape hc).2 with hc | hc
  · exact h hc
  · exact absurd hc (by decide)

/-! ### The lines of a node -/

def boxLine (i : Int) (k : NodeKind) (t : String) : String :=
  "    " ++ nodeName i ++ (brackets k).1 ++ "\"" ++ escape t ++ "\"" ++ (brackets k).2

def arrowLine (i : Int) (mark : String) (t : Int) : String := "    " ++ nodeName i ++ mark ++ targetName t

/-- What stands on the arrows of a node. -/
def marks : NodeKind → List String
  | .branch => [" -- \"then\" --> ", " -- \"else\" --> "]
  | _ => [" --> "]

theorem nodeLines_eq (g : Graph) (n : Node) :
    nodeLines g n =
      boxLine n.id n.kind (label g n) :: List.zipWith (arrowLine n.id) (marks n.kind) n.targets := by
  cases n <;> rfl

theorem length_targets (n : Node) : n.targets.length = (marks n.kind).length := by
  cases n <;> rfl

theorem opening_injective {k l : NodeKind} (h : (brackets k).1 = (brackets l).1) : k = l := by
  revert h
  cases k <;> cases l <;> decide

/-- The first double quotes on the line of a box are the ones around its label. -/
theorem boxLine_inj {i : Int} {k l : NodeKind} {t u : String} (h : boxLine i k t = boxLine i l u) :
    k = l ∧ escape t = escape u := by
  have hcut (k : NodeKind) (t : String) : (boxLine i k t).toList =
      ("    " ++ nodeName i ++ (brackets k).1).toList ++
        '"' :: ((escape t).toList ++ '"' :: (brackets k).2.toList) := by
    simp [boxLine, String.toList_append]
  have hopening (k : NodeKind) : '"' ∉ ("    " ++ nodeName i ++ (brackets k).1).toList := by
    have hbracket : '"' ∉ (brackets k).1.toList := by cases k <;> decide
    have hname : '"' ∉ (nodeName i).toList := fun hc => (ne_of_mem_nodeName hc).2 rfl
    simp [String.toList_append, hbracket, hname]
  have hlabel (t : String) : '"' ∉ (escape t).toList := fun hc => (mem_escape hc).1 rfl
  have hlist := congrArg String.toList h
  rw [hcut, hcut] at hlist
  obtain ⟨hhead, hrest⟩ := Text.append_cons_inj (hopening k) (hopening l) hlist
  obtain ⟨htext, -⟩ := Text.append_cons_inj (hlabel t) (hlabel u) hrest
  have hbracket := (String.append_right_inj _).mp (String.toList_injective hhead)
  exact ⟨opening_injective hbracket, String.toList_injective htext⟩

theorem zipWith_arrowLine_inj {i : Int} {ms : List String} {ts us : List Int} (ht : ts.length = ms.length)
    (hu : us.length = ms.length)
    (h : List.zipWith (arrowLine i) ms ts = List.zipWith (arrowLine i) ms us) : ts = us := by
  induction ms generalizing ts us with
  | nil => rw [List.length_eq_zero_iff.mp ht, List.length_eq_zero_iff.mp hu]
  | cons m ms ih =>
    obtain ⟨t, ts, rfl⟩ := List.exists_cons_of_length_eq_add_one ht
    obtain ⟨u, us, rfl⟩ := List.exists_cons_of_length_eq_add_one hu
    obtain ⟨harrow, hrest⟩ := List.cons.inj h
    rw [targetName_injective ((String.append_right_inj _).mp harrow),
      ih (Nat.succ.inj ht) (Nat.succ.inj hu) hrest]

end Diagram

open Diagram

variable {g h : Graph}

/-- Nodes of two graphs that are drawn alike: the kind, the targets and, up to its quotes, the text of the
statement. -/
structure SameBox (g h : Graph) (n m : Node) : Prop where
  kind : n.kind = m.kind
  targets : n.targets = m.targets
  label : ∃ s t, g.statement? n.parent = some s ∧ h.statement? m.parent = some t ∧
    shown s.text = shown t.text

/-- Graphs that are drawn alike: the entry and, one by one, the nodes. -/
structure SameDrawing (g h : Graph) : Prop where
  length : g.nodes.length = h.nodes.length
  entry : g.entry = h.entry
  nodes : ∀ i n m, g.node? i = some n → h.node? i = some m → SameBox g h n m

namespace Diagram

theorem label_eq {n : Node} {s : Statement} (hs : g.statement? n.parent = some s) : label g n = s.text := by
  rw [label, statementText?, hs, Option.map_some, Option.getD_some]

theorem nodeLines_congr {n m : Node} (hid : n.id = m.id) (hbox : SameBox g h n m) :
    nodeLines g n = nodeLines h m := by
  obtain ⟨s, t, hs, ht, hshown⟩ := hbox.label
  have hlabel : escape (label g n) = escape (label h m) := by
    rw [label_eq hs, label_eq ht]
    exact escape_eq_iff.mpr hshown
  rw [nodeLines_eq, nodeLines_eq, boxLine, boxLine, hid, hbox.kind, hbox.targets, hlabel]

/-- The lines of a node tell how it is drawn, whatever follows them. -/
theorem nodeLines_append_inj {n m : Node} {ls ms : List String} (hid : n.id = m.id)
    (hn : ∃ s, g.statement? n.parent = some s) (hm : ∃ t, h.statement? m.parent = some t)
    (hlines : nodeLines g n ++ ls = nodeLines h m ++ ms) : SameBox g h n m ∧ ls = ms := by
  obtain ⟨s, hs⟩ := hn
  obtain ⟨t, ht⟩ := hm
  rw [nodeLines_eq, nodeLines_eq, List.cons_append, List.cons_append, ← hid] at hlines
  obtain ⟨hbox, harrows⟩ := List.cons.inj hlines
  obtain ⟨hkind, hlabel⟩ := boxLine_inj hbox
  -- there are statements, so the labels are their texts and not the names of the kinds
  rw [label_eq hs, label_eq ht] at hlabel
  have hn := length_targets n
  have hm := length_targets m
  rw [← hkind] at harrows hm
  obtain ⟨harrows, hrest⟩ := List.append_inj harrows (by simp [hn, hm])
  exact ⟨⟨hkind, zipWith_arrowLine_inj hn hm harrows, s, t, hs, ht, escape_eq_iff.mp hlabel⟩, hrest⟩

/-- The lines of all nodes tell how each node is drawn. -/
theorem flatMap_nodeLines_inj {ns ms : List Node} (hids : ∀ n m, (n, m) ∈ ns.zip ms → n.id = m.id)
    (hns : ∀ n ∈ ns, ∃ s, g.statement? n.parent = some s)
    (hms : ∀ m ∈ ms, ∃ t, h.statement? m.parent = some t)
    (hlines : ns.flatMap (nodeLines g) = ms.flatMap (nodeLines h)) :
    List.Forall₂ (SameBox g h) ns ms := by
  induction ns generalizing ms with
  | nil =>
    cases ms with
    | nil => exact .nil
    | cons m ms =>
      rw [List.flatMap_cons, nodeLines_eq] at hlines
      cases hlines
  | cons n ns ih =>
    cases ms with
    | nil =>
      rw [List.flatMap_cons, nodeLines_eq] at hlines
      cases hlines
    | cons m ms =>
      obtain ⟨hn, hns⟩ := List.forall_mem_cons.mp hns
      obtain ⟨hm, hms⟩ := List.forall_mem_cons.mp hms
      obtain ⟨hbox, hrest⟩ := nodeLines_append_inj (hids n m List.mem_cons_self) hn hm hlines
      exact .cons hbox (ih (fun n m hmem => hids n m (List.mem_cons_of_mem _ hmem)) hns hms hrest)

theorem newline_not_mem_nodeLines {n : Node} (hlabel : '\n' ∉ (label g n).toList) :
    ∀ l ∈ nodeLines g n, '\n' ∉ l.toList := by
  have hname : '\n' ∉ (nodeName n.id).toList := fun hc => (ne_of_mem_nodeName hc).1 rfl
  have hbracket : '\n' ∉ (brackets n.kind).1.toList ∧ '\n' ∉ (brackets n.kind).2.toList := by
    cases n.kind <;> decide
  have hmark : ∀ mark ∈ marks n.kind, '\n' ∉ mark.toList := by
    cases n.kind <;> decide
  rw [nodeLines_eq]
  refine List.forall_mem_cons.mpr ⟨?_, fun l hl => ?_⟩
  · simp [boxLine, String.toList_append, hname, hbracket, newline_not_mem_escape hlabel]
  · rw [← List.map_uncurry_zip_eq_zipWith] at hl
    obtain ⟨⟨mark, t⟩, hmem, rfl⟩ := List.mem_map.mp hl
    have hmark' := hmark mark (List.of_mem_zip hmem).1
    simp [arrowLine, String.toList_append, hname, hmark', newline_not_mem_targetName]

theorem newline_not_mem_lines {ns : List Node} (hlabels : ∀ n ∈ ns, '\n' ∉ (label g n).toList) :
    ∀ l ∈ lines g ns, '\n' ∉ l.toList := by
  intro l hl
  rcases List.mem_append.mp hl with hl | hl
  · simp only [List.mem_cons, List.not_mem_nil, or_false] at hl
    rcases hl with rfl | rfl | rfl | rfl
    · decide
    · decide
    · decide
    · simp [String.toList_append, newline_not_mem_targetName]
  · obtain ⟨n, hn, hl⟩ := List.mem_flatMap.mp hl
    exact newline_not_mem_nodeLines (hlabels n hn) l hl

/-- The lines of a diagram tell where the graph is entered and how each node is drawn. -/
theorem lines_inj {ns ms : List Node} (hids : ∀ n m, (n, m) ∈ ns.zip ms → n.id = m.id)
    (hns : ∀ n ∈ ns, ∃ s, g.statement? n.parent = some s)
    (hms : ∀ m ∈ ms, ∃ t, h.statement? m.parent = some t)
    (hlines : lines g ns = lines h ms) : g.entry = h.entry ∧ List.Forall₂ (SameBox g h) ns ms := by
  obtain ⟨hhead, hnodes⟩ := List.append_inj hlines rfl
  have hentry : "    start --> " ++ targetName g.entry = "    start --> " ++ targetName h.entry := by
    simpa using hhead
  exact ⟨targetName_injective ((String.append_right_inj _).mp hentry),
    flatMap_nodeLines_inj hids hns hms hnodes⟩

theorem lines_congr {ns ms : List Node} (hentry : g.entry = h.entry)
    (hids : ∀ n m, (n, m) ∈ ns.zip ms → n.id = m.id) (hboxes : List.Forall₂ (SameBox g h) ns ms) :
    lines g ns = lines h ms := by
  have hnodes : ns.flatMap (nodeLines g) = ms.flatMap (nodeLines h) := by
    induction hboxes with
    | nil => rw [List.flatMap_nil, List.flatMap_nil]
    | cons hbox _ ih =>
      rw [List.flatMap_cons, List.flatMap_cons, nodeLines_congr (hids _ _ List.mem_cons_self) hbox,
        ih fun n m hmem => hids n m (List.mem_cons_of_mem _ hmem)]
  rw [lines, lines, hentry, hnodes]

end Diagram

/-! ### Graphs that the check accepts -/

theorem diagram?_of_nodes {ns : List Node} (hns : g.nodes = ns.map some) :
    g.diagram? none = some (joinLines (lines g ns)) := by
  rw [diagram?, allNodes?, hns, mapM_id_map_some, Option.map_some, List.append_nil]

namespace Placed

theorem exists_statement (hp : g.Placed) {ns : List Node} (hns : g.nodes = ns.map some) :
    ∀ n ∈ ns, ∃ s, g.statement? n.parent = some s := by
  intro n hn
  obtain ⟨i, hi⟩ := List.mem_iff_getElem?.mp hn
  have hplaced := hp.nodes i n (by rw [hns, List.getElem?_map, hi]; rfl)
  exact Option.isSome_iff_exists.mp ((at?_isSome_iff _ _).mpr hplaced.parent)

/-- The label of a node is the text of a statement. -/
theorem newline_not_mem_label (hp : g.Placed) (htext : ∀ s ∈ g.statements, '\n' ∉ s.text.toList)
    {ns : List Node} (hns : g.nodes = ns.map some) : ∀ n ∈ ns, '\n' ∉ (label g n).toList := by
  intro n hn
  obtain ⟨s, hs⟩ := hp.exists_statement hns n hn
  obtain ⟨k, -, hk⟩ := at?_eq_some hs
  rw [label_eq hs]
  exact htext s (List.mem_of_getElem? hk)

theorem id_eq (hg : g.Placed) (hh : h.Placed) {ns ms : List Node} (hns : g.nodes = ns.map some)
    (hms : h.nodes = ms.map some) : ∀ n m, (n, m) ∈ ns.zip ms → n.id = m.id := by
  intro n m hmem
  obtain ⟨i, hi⟩ := List.mem_iff_getElem?.mp hmem
  obtain ⟨hn, hm⟩ := List.getElem?_zip_eq_some.mp hi
  rw [(hg.nodes i n (by rw [hns, List.getElem?_map, hn]; rfl)).id,
    (hh.nodes i m (by rw [hms, List.getElem?_map, hm]; rfl)).id]

end Placed

theorem sameDrawing_iff {ns ms : List Node} (hns : g.nodes = ns.map some) (hms : h.nodes = ms.map some) :
    SameDrawing g h ↔ g.entry = h.entry ∧ List.Forall₂ (SameBox g h) ns ms := by
  have hlookup {k : Graph} {ns : List Node} (hns : k.nodes = ns.map some) (i : ℕ) (n : Node) :
      k.node? i = some n ↔ ns[i]? = some n := by
    rw [node?_natCast, hns, List.getElem?_map, Option.join_eq_some_iff]
    simp
  rw [List.forall₂_iff_zip]
  constructor
  · intro hsame
    refine ⟨hsame.entry, ?_, fun {n m} hmem => ?_⟩
    · simpa [hns, hms] using hsame.length
    · obtain ⟨i, hi⟩ := List.mem_iff_getElem?.mp hmem
      obtain ⟨hn, hm⟩ := List.getElem?_zip_eq_some.mp hi
      exact hsame.nodes i n m ((hlookup hns i n).mpr hn) ((hlookup hms i m).mpr hm)
  · rintro ⟨hentry, hlen, hboxes⟩
    refine ⟨by simpa [hns, hms] using hlen, hentry, fun i n m hn hm => ?_⟩
    obtain ⟨k, rfl, -⟩ := node?_eq_some hn
    have hzip : (ns.zip ms)[k]? = some (n, m) :=
      List.getElem?_zip_eq_some.mpr ⟨(hlookup hns k n).mp hn, (hlookup hms k m).mp hm⟩
    exact hboxes (List.mem_of_getElem? hzip)

/-! ### Styles -/

namespace Diagram

variable {seen vs : List Int} {w : Int}

theorem visitedNodes_of_first (hin : Within g.nodes w) (hseen : w ∉ seen) :
    visitedNodes g seen (w :: vs) = w :: visitedNodes g (w :: seen) vs := by
  rw [visitedNodes, if_neg (not_or.mpr ⟨fun h => (slot?_isNone_iff g w).mp h hin, hseen⟩)]

theorem visitedNodes_of_not_first (h : ¬ (Within g.nodes w ∧ w ∉ seen)) :
    visitedNodes g seen (w :: vs) = visitedNodes g seen vs := by
  rw [visitedNodes, if_pos]
  rw [slot?_isNone_iff]
  tauto

theorem mem_visitedNodes {v : Int} :
    v ∈ visitedNodes g seen vs ↔ v ∈ vs ∧ Within g.nodes v ∧ v ∉ seen := by
  induction vs generalizing seen with
  | nil => simp [visitedNodes]
  | cons w vs ih =>
    by_cases hfirst : Within g.nodes w ∧ w ∉ seen
    · rw [visitedNodes_of_first hfirst.1 hfirst.2, List.mem_cons, List.mem_cons, ih, List.mem_cons]
      by_cases hv : v = w
      · simp [hv, hfirst]
      · simp [hv]
    · rw [visitedNodes_of_not_first hfirst, ih, List.mem_cons]
      constructor
      · rintro ⟨hv, hrest⟩
        exact ⟨.inr hv, hrest⟩
      · rintro ⟨rfl | hv, hrest⟩
        · exact absurd hrest hfirst
        · exact ⟨hv, hrest⟩

/-- The first visits stand in the order of the visits. -/
theorem pairwise_visitedNodes : (visitedNodes g seen vs).Pairwise fun a b => vs.idxOf a < vs.idxOf b := by
  induction vs generalizing seen with
  | nil => exact .nil
  | cons w vs ih =>
    have hshift {us : List Int} (hw : w ∉ us) (h : us.Pairwise fun a b => vs.idxOf a < vs.idxOf b) :
        us.Pairwise fun a b => (w :: vs).idxOf a < (w :: vs).idxOf b := by
      refine h.imp_of_mem fun ha hb hlt => ?_
      rw [List.idxOf_cons_ne _ (ne_of_mem_of_not_mem ha hw).symm,
        List.idxOf_cons_ne _ (ne_of_mem_of_not_mem hb hw).symm]
      exact Nat.succ_lt_succ hlt
    by_cases hfirst : Within g.nodes w ∧ w ∉ seen
    · have hw : w ∉ visitedNodes g (w :: seen) vs := by simp [mem_visitedNodes]
      rw [visitedNodes_of_first hfirst.1 hfirst.2]
      refine List.pairwise_cons.mpr ⟨fun v hv => ?_, hshift hw ih⟩
      rw [List.idxOf_cons_self, List.idxOf_cons_ne _ (ne_of_mem_of_not_mem hv hw).symm]
      exact Nat.succ_pos _
    · rw [visitedNodes_of_not_first hfirst]
      exact hshift (fun hw => hfirst (mem_visitedNodes.mp hw).2) ih

/-- The style lines that mark some nodes as visited and at most one as failed. -/
def styleLines (visited : List Int) (failed : Option Int) : List String :=
  ["", "    %% Overlay Styles",
    "    classDef visited fill:#e1f5fe,stroke:#01579b,stroke-width:2px,color:#000;",
    "    classDef failed fill:#ffcdd2,stroke:#b71c1c,stroke-width:4px,color:#000;"] ++
  visited.map (fun v => "    class " ++ nodeName v ++ " visited;") ++
  (failed.map fun f => "    class " ++ nodeName f ++ " failed;").toList

theorem overlayLines_eq (g : Graph) (o : Overlay) :
    overlayLines g o =
      styleLines (visitedNodes g [] o.visited) (o.failed.filter fun f => (g.slot? f).isSome) := by
  rw [overlayLines, styleLines]
  congr 1
  cases o.failed with
  | none => rfl
  | some f => cases hin : (g.slot? f).isSome <;> simp only [Option.filter_some, hin] <;> rfl

end Diagram

theorem diagram?_overlay (g : Graph) (o : Overlay) :
    g.diagram? (some o) = (g.diagram? none).map (· ++ joinLines (overlayLines g o)) := by
  rw [diagram?, diagram?, Option.map_map]
  congr 1
  funext ns
  rw [Function.comp_apply, List.append_nil, joinLines_append]

/-- Of two graphs that the check accepts, with the text of each statement on one line, the diagrams have
one text just when the graphs are drawn alike. An overlay adds style lines to the text, which mark the
nodes of the graph among the visited ones, each once and in the order of their first visits, and the
failed one if it is a node of the graph. -/
theorem diagram_exact {g h : Graph} (hg : g.check = .ok ()) (hh : h.check = .ok ())
    (hgtext : ∀ s ∈ g.statements, '\n' ∉ s.text.toList)
    (hhtext : ∀ s ∈ h.statements, '\n' ∉ s.text.toList) :
    (∃ text, g.diagram? none = some text) ∧ (g.diagram? none = h.diagram? none ↔ SameDrawing g h) ∧
      ∀ (k : Graph) (o : Overlay), ∃ visited failed,
        k.diagram? (some o) = (k.diagram? none).map (· ++ joinLines (styleLines visited failed)) ∧
        (∀ v, v ∈ visited ↔ v ∈ o.visited ∧ Within k.nodes v) ∧ visited.Nodup ∧
        (visited.Pairwise fun a b => o.visited.idxOf a < o.visited.idxOf b) ∧
        ∀ f, failed = some f ↔ o.failed = some f ∧ Within k.nodes f := by
  have hgp := placed_of_check hg
  have hhp := placed_of_check hh
  obtain ⟨ns, hns⟩ := hgp.exists_nodes
  obtain ⟨ms, hms⟩ := hhp.exists_nodes
  have hids := hgp.id_eq hhp hns hms
  refine ⟨⟨_, diagram?_of_nodes hns⟩, ?_, fun k o => ?_⟩
  · rw [diagram?_of_nodes hns, diagram?_of_nodes hms, Option.some_inj, sameDrawing_iff hns hms]
    constructor
    · intro htext
      have hlines := joinLines_inj (newline_not_mem_lines (hgp.newline_not_mem_label hgtext hns))
        (newline_not_mem_lines (hhp.newline_not_mem_label hhtext hms)) htext
      exact lines_inj hids (hgp.exists_statement hns) (hhp.exists_statement hms) hlines
    · rintro ⟨hentry, hboxes⟩
      rw [lines_congr hentry hids hboxes]
  · have horder : (visitedNodes k [] o.visited).Pairwise
        fun a b => o.visited.idxOf a < o.visited.idxOf b := pairwise_visitedNodes
    refine ⟨_, _, overlayLines_eq k o ▸ diagram?_overlay k o, fun v => ?_, ?_, horder, fun f => ?_⟩
    · simp [mem_visitedNodes]
    · exact horder.imp fun hlt heq => by simp [heq] at hlt
    · rw [Option.filter_eq_some_iff, slot?, at?_isSome_iff]

/-- A reply of a text and a reply of a variable whose name has the quotes of the text are drawn alike. -/
theorem diagram_exact_quotes :
    let quoted : Statement := ⟨0, .reply, "", .apply (.lit (.text "a")) [], .empty, ⟨"", 0⟩⟩
    let named : Statement := ⟨0, .reply, "", .apply (.var "'a'") [], .empty, ⟨"", 0⟩⟩
    let g : Graph := ⟨[some (.reply 0 0 (-1))], [quoted], 0⟩
    let h : Graph := ⟨[some (.reply 0 0 (-1))], [named], 0⟩
    quoted.text ≠ named.text ∧ g.check = .ok () ∧ h.check = .ok () ∧
      (∀ s ∈ g.statements, '\n' ∉ s.text.toList) ∧ (∀ s ∈ h.statements, '\n' ∉ s.text.toList) ∧
      SameDrawing g h ∧ g.diagram? none = h.diagram? none := by
  intro quoted named g h
  have hgtext : ∀ s ∈ g.statements, '\n' ∉ s.text.toList := by decide
  have hhtext : ∀ s ∈ h.statements, '\n' ∉ s.text.toList := by decide
  have hbox : SameBox g h (.reply 0 0 (-1)) (.reply 0 0 (-1)) :=
    ⟨rfl, rfl, quoted, named, rfl, rfl, by decide⟩
  have hgnodes : g.nodes = [Node.reply 0 0 (-1)].map some := rfl
  have hhnodes : h.nodes = [Node.reply 0 0 (-1)].map some := rfl
  have hsame : SameDrawing g h := (sameDrawing_iff hgnodes hhnodes).mpr ⟨rfl, .cons hbox .nil⟩
  exact ⟨by decide, rfl, rfl, hgtext, hhtext, hsame,
    (diagram_exact rfl rfl hgtext hhtext).2.1.mpr hsame⟩

end Graph
end Courier
