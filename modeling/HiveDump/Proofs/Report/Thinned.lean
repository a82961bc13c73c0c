import HiveDump.Proofs.Report.ShownValues
import Std.Data.String.ToInt

/-!
# Reports without what was lost

A report on a hive whose handles are not recognised, or whose data cells are lost, says less of the
nodes and values concerned: a node has no time and no byte runs, a value has no byte runs. `thin`
takes these out of a report in which they all stand. Which elements are concerned it reads off the
report itself, since the first byte run of a node or value begins at its handle; `shownIn` lists the
handles that a report shows.

Where the policy answers with a time stamp, this one stands in the node instead of its own. `Loses`
says what is left of a report in any case; where nothing is answered, that is what `thin` makes of
it.

Results:
* `thin_byteRuns`, `thin_strings`: parts that stay as they are;
* `thin_value`, `loses_thin`: values, and everything else without a node that is not recognised;
* **`loses_node`**, `loses_root`: the elements of nodes, and the root, which loses nothing of its
  own;
* **`Loses.eq_thin`**: what is left where no time stamp is answered;
* `thin_nothing`: nothing is taken out if nothing was lost.
-/

namespace HiveDump

/-- The handles of nodes and values that are not recognised, and those of the values whose data
cells are lost. -/
structure Losses where
  handles : List Int := []
  cells : List Int := []

/-- The names of the elements that an element loses, by its name and the handle that it is for. -/
def Losses.parts (losses : Losses) (name : String) (handle : Int) : List String :=
  if name = "node" then
    if handle ∈ losses.handles then ["mtime", "byte_runs"] else []
  else if name = "value" then
    if handle ∈ losses.handles ∨ handle ∈ losses.cells then ["byte_runs"] else []
  else []

namespace Report

open Markup Markup.Tree

/-! ## Thinning -/

/-- The name of an element. -/
def nameOf? : Tree → Option String
  | .element name _ _ => some name
  | .text _ => none

/-- Where the first of some byte runs begins. -/
def startOf? : Tree → Option Int
  | .element name _ (.element _ (a :: _) _ :: _) =>
    if name = "byte_runs" ∧ a.name = "file_offset" then a.value.toInt? else none
  | _ => none

/-- The handle that an element is for, by what stands inside it. -/
def handleOf? (inside : List Tree) : Option Int :=
  inside.findSome? startOf?

/-- Whether a tree is none of the elements with these names. -/
def isKept (lost : List String) (t : Tree) : Bool :=
  !lost.any fun name => nameOf? t == some name

/-- The names of the elements that an element loses, by its name and what stands inside it. -/
def lostIn (losses : Losses) (name : String) (inside : List Tree) : List String :=
  ((handleOf? inside).map (losses.parts name)).getD []

mutual

/-- A report without what was lost. -/
def thin (losses : Losses) : Tree → Tree
  | .text content => .text content
  | .element name attributes inside =>
    .element name attributes ((thinAll losses inside).filter (isKept (lostIn losses name inside)))

/-- Parts of a report without what was lost. -/
def thinAll (losses : Losses) : List Tree → List Tree
  | [] => []
  | t :: ts => thin losses t :: thinAll losses ts

end

mutual

/-- The handles that a report shows, each with the name of its element, in order. -/
def shownIn : Tree → List (String × Int)
  | .text _ => []
  | .element name _ inside =>
    ((handleOf? inside).map fun handle => (name, handle)).toList ++ shownInAll inside

/-- The handles that parts of a report show. -/
def shownInAll : List Tree → List (String × Int)
  | [] => []
  | t :: ts => shownIn t ++ shownInAll ts

end

mutual

/-- What is left of a report, if these time stamps may be answered for the handles of nodes that are
not recognised. -/
inductive Loses (answers : Int → Option Int → Prop) (losses : Losses) : Tree → Tree → Prop
  | text (content : String) : Loses answers losses (.text content) (.text content)
  | element {name : String} {attributes : List Attribute} {inside left : List Tree}
    (hinside : LosesAll answers losses inside left) (htimed : "mtime" ∉ lostIn losses name inside) :
    Loses answers losses (.element name attributes inside)
      (.element name attributes (left.filter (isKept (lostIn losses name inside))))
  | untimed {name : String} {attributes : List Attribute} {inside left : List Tree} {handle : Int}
    {time : Option Int} (hinside : LosesAll answers losses inside left)
    (hhandle : handleOf? inside = some handle) (hlost : "mtime" ∈ losses.parts name handle)
    (hanswer : answers handle time) :
    Loses answers losses (.element name attributes inside)
      (.element name attributes
        (timeShown time ++ left.filter (isKept (losses.parts name handle))))

/-- What is left of parts of a report. -/
inductive LosesAll (answers : Int → Option Int → Prop) (losses : Losses) :
    List Tree → List Tree → Prop
  | nil : LosesAll answers losses [] []
  | cons {t t' : Tree} {ts ts' : List Tree} (ht : Loses answers losses t t')
    (hts : LosesAll answers losses ts ts') : LosesAll answers losses (t :: ts) (t' :: ts')

end

variable {losses : Losses} {ts us : List Tree} {name : String} {lost : List String}
  {answers answers' : Int → Option Int → Prop}

/-- Whether all of these are elements with one name. -/
def Named (name : String) (ts : List Tree) : Prop :=
  ∀ t ∈ ts, nameOf? t = some name

theorem Named.nil : Named name [] := by
  simp [Named]

theorem Named.append (h : Named name ts) (h' : Named name us) : Named name (ts ++ us) :=
  List.forall_mem_append.mpr ⟨h, h'⟩

theorem named_singleton (name : String) (attributes : List Attribute) (inside : List Tree) :
    Named name [.element name attributes inside] :=
  List.forall_mem_singleton.mpr rfl

theorem thinAll_append (losses : Losses) (ts us : List Tree) :
    thinAll losses (ts ++ us) = thinAll losses ts ++ thinAll losses us := by
  induction ts with
  | nil => rfl
  | cons t ts ih => rw [List.cons_append, thinAll, ih, thinAll, List.cons_append]

theorem shownInAll_append (ts us : List Tree) :
    shownInAll (ts ++ us) = shownInAll ts ++ shownInAll us := by
  induction ts with
  | nil => rfl
  | cons t ts ih => rw [List.cons_append, shownInAll, ih, shownInAll, List.append_assoc]

theorem LosesAll.append {ts' us' : List Tree} (h : LosesAll answers losses ts ts')
    (h' : LosesAll answers losses us us') : LosesAll answers losses (ts ++ us) (ts' ++ us') := by
  induction ts generalizing ts' with
  | nil =>
    cases h
    exact h'
  | cons t ts ih =>
    cases h with
    | cons ht hts => exact .cons ht (ih hts)

mutual

/-- More time stamps may be answered. -/
theorem Loses.mono (hle : ∀ handle time, answers handle time → answers' handle time) :
    ∀ {t t' : Tree}, Loses answers losses t t' → Loses answers' losses t t'
  | _, _, .text content => .text content
  | _, _, .element hinside htimed => .element (hinside.mono hle) htimed
  | _, _, .untimed hinside hhandle hlost hanswer =>
    .untimed (hinside.mono hle) hhandle hlost (hle _ _ hanswer)

theorem LosesAll.mono (hle : ∀ handle time, answers handle time → answers' handle time) :
    ∀ {ts ts' : List Tree}, LosesAll answers losses ts ts' → LosesAll answers' losses ts ts'
  | _, _, .nil => .nil
  | _, _, .cons ht hts => .cons (ht.mono hle) (hts.mono hle)

end

theorem nameOf?_thin (losses : Losses) (t : Tree) : nameOf? (thin losses t) = nameOf? t := by
  cases t with
  | text => rw [thin]
  | element =>
    rw [thin]
    rfl

theorem Named.thinAll (h : Named name ts) : Named name (thinAll losses ts) := by
  induction ts with
  | nil => exact .nil
  | cons t ts ih =>
    obtain ⟨ht, hts⟩ := List.forall_mem_cons.mp h
    exact List.forall_mem_cons.mpr ⟨(nameOf?_thin losses t).trans ht, ih hts⟩

/-- Elements with other names are kept. -/
theorem Named.filter_kept (h : Named name ts) (hname : name ∉ lost) :
    ts.filter (isKept lost) = ts := by
  refine List.filter_eq_self.mpr fun t ht => ?_
  rw [isKept, h t ht, Bool.not_eq_true', List.any_eq_false]
  rintro other hother heq
  rw [beq_iff_eq, Option.some_inj] at heq
  exact hname (heq ▸ hother)

/-- Elements with one of the names are not. -/
theorem Named.filter_lost (h : Named name ts) (hname : name ∈ lost) :
    ts.filter (isKept lost) = [] := by
  refine List.filter_eq_nil_iff.mpr fun t ht => ?_
  rw [isKept, h t ht, Bool.not_eq_true', Bool.not_eq_false, List.any_eq_true]
  exact ⟨name, hname, beq_self_eq_true _⟩

theorem filter_kept_nil (ts : List Tree) : ts.filter (isKept []) = ts :=
  List.filter_eq_self.mpr fun _ _ => rfl

theorem lostIn_of_handle {inside : List Tree} {handle : Int} (h : handleOf? inside = some handle)
    (losses : Losses) (name : String) : lostIn losses name inside = losses.parts name handle := by
  rw [lostIn, h, Option.map_some, Option.getD_some]

theorem lostIn_of_none {inside : List Tree} (h : handleOf? inside = none) (losses : Losses)
    (name : String) : lostIn losses name inside = [] := by
  rw [lostIn, h, Option.map_none, Option.getD_none]

/-- An element that never loses anything. -/
theorem lostIn_of_parts (h : ∀ handle, losses.parts name handle = []) (inside : List Tree) :
    lostIn losses name inside = [] := by
  cases hhandle : handleOf? inside with
  | none => exact lostIn_of_none hhandle losses name
  | some handle => exact (lostIn_of_handle hhandle losses name).trans (h handle)

/-- Only nodes lose a time. -/
theorem mtime_mem_parts {handle : Int} :
    "mtime" ∈ losses.parts name handle ↔ name = "node" ∧ handle ∈ losses.handles := by
  unfold Losses.parts
  by_cases hnode : name = "node"
  · rw [if_pos hnode]
    split <;> simp_all
  · rw [if_neg hnode]
    split
    · split <;> simp_all
    · simp_all

/-! ## Parts that stay as they are -/

theorem named_time (ticks : Option Int) : Named "mtime" (timeShown ticks) := by
  unfold timeShown
  split
  · exact named_singleton _ _ _
  · exact .nil

theorem named_byteRuns (runs : List (Int × Int)) : Named "byte_runs" [runsTree runs] :=
  named_singleton _ _ _

theorem thin_time (losses : Losses) (ticks : Option Int) :
    thinAll losses (timeShown ticks) = timeShown ticks := by
  unfold timeShown
  split <;> rfl

theorem shownIn_time (ticks : Option Int) : shownInAll (timeShown ticks) = [] := by
  unfold timeShown
  split <;> rfl

theorem handleOf?_byteRun (runs : List (Int × Int)) :
    handleOf? (runs.map fun run => byteRunTree run.1 run.2) = none :=
  List.findSome?_eq_none_iff.mpr fun t ht => by
    obtain ⟨run, -, rfl⟩ := List.mem_map.mp ht
    rfl

theorem thin_byteRun (losses : Losses) (runs : List (Int × Int)) :
    thinAll losses (runs.map fun run => byteRunTree run.1 run.2) =
      runs.map fun run => byteRunTree run.1 run.2 := by
  induction runs with
  | nil => rfl
  | cons run runs ih =>
    rw [List.map_cons, thinAll, ih]
    rfl

theorem thin_byteRuns (losses : Losses) (runs : List (Int × Int)) :
    thin losses (runsTree runs) = runsTree runs := by
  rw [runsTree, thin, lostIn_of_none (handleOf?_byteRun runs), filter_kept_nil, thin_byteRun]

theorem shownIn_byteRuns (runs : List (Int × Int)) : shownIn (runsTree runs) = [] := by
  rw [runsTree, shownIn, handleOf?_byteRun]
  induction runs with
  | nil => rfl
  | cons run runs ih => exact ih

/-- Texts of a value. -/
theorem thin_strings (losses : Losses) (entries : List (Option String)) :
    thinAll losses (entries.map entryTree) = entries.map entryTree := by
  induction entries with
  | nil => rfl
  | cons entry entries ih =>
    rw [List.map_cons, thinAll, ih]
    cases entry <;> rfl

theorem shownIn_strings (entries : List (Option String)) :
    shownInAll (entries.map entryTree) = [] := by
  induction entries with
  | nil => rfl
  | cons entry entries ih =>
    rw [List.map_cons, shownInAll, ih]
    cases entry with
    | none => rfl
    | some s => rfl

theorem named_strings (entries : List (Option String)) :
    Named "string" (entries.map entryTree) := by
  intro t ht
  obtain ⟨entry, -, rfl⟩ := List.mem_map.mp ht
  cases entry <;> rfl

/-! ## Nodes and values -/

theorem startOf?_byteRuns (handle length : Int) (more : List (Int × Int)) :
    startOf? (runsTree ((handle, length) :: more)) = some handle :=
  Int.toInt?_repr handle

theorem handleOf?_of_named (h : Named name ts) (hname : name ≠ "byte_runs") :
    handleOf? ts = none := by
  refine List.findSome?_eq_none_iff.mpr fun t ht => ?_
  have ht := h t ht
  unfold startOf?
  split
  · rw [nameOf?, Option.some_inj] at ht
    rw [if_neg fun hruns => hname (ht.symm.trans hruns.1)]
  · rfl

/-- The handle stands in the first byte run. -/
theorem handleOf?_of_byteRuns (h : Named name ts) (hname : name ≠ "byte_runs") (handle length : Int)
    (more : List (Int × Int)) :
    handleOf? (ts ++ runsTree ((handle, length) :: more) :: us) = some handle := by
  rw [handleOf?, List.findSome?_append, ← handleOf?, handleOf?_of_named h hname, Option.none_or,
    List.findSome?_cons, startOf?_byteRuns]

theorem handleOf?_node (ticks : Option Int) (handle length : Int) (values nodes : List Tree) :
    handleOf? (timeShown ticks ++ [runsTree [(handle, length)]] ++ values ++ nodes) =
      some handle := by
  simp only [List.append_assoc, List.cons_append, List.nil_append]
  exact handleOf?_of_byteRuns (named_time ticks) (by decide) handle length []

theorem handleOf?_value (entries : List (Option String)) (handle length : Int)
    (more : List (Int × Int)) :
    handleOf? (entries.map entryTree ++ [runsTree ((handle, length) :: more)]) = some handle :=
  handleOf?_of_byteRuns (named_strings entries) (by decide) handle length more

theorem shownIn_node (marks : List Attribute) (ticks : Option Int) (handle length : Int)
    (values nodes : List Tree) :
    shownIn (.element "node" marks
        (timeShown ticks ++ [runsTree [(handle, length)]] ++ values ++ nodes)) =
      ("node", handle) :: (shownInAll values ++ shownInAll nodes) := by
  rw [shownIn, handleOf?_node]
  simp only [shownInAll_append, shownIn_time, shownInAll, shownIn_byteRuns]
  rfl

/-- **A value** loses its byte runs. -/
theorem thin_value {attributes : List Attribute} (losses : Losses) (entries : List (Option String))
    (handle length : Int) (more : List (Int × Int)) :
    thin losses (.element "value" attributes
        (entries.map entryTree ++ [runsTree ((handle, length) :: more)])) =
      .element "value" attributes (entries.map entryTree ++
        if handle ∈ losses.handles ∨ handle ∈ losses.cells then []
        else [runsTree ((handle, length) :: more)]) := by
  rw [thin, lostIn_of_handle (handleOf?_value entries handle length more), Losses.parts,
    if_neg (by decide), if_pos rfl]
  simp only [thinAll_append, thin_strings, thinAll, thin_byteRuns, List.filter_append]
  split
  · rw [(named_strings entries).filter_kept (by decide), (named_byteRuns _).filter_lost (by decide)]
  · simp only [filter_kept_nil]

theorem shownIn_value (attributes : List Attribute) (entries : List (Option String))
    (handle length : Int) (more : List (Int × Int)) :
    shownIn (.element "value" attributes
        (entries.map entryTree ++ [runsTree ((handle, length) :: more)])) =
      [("value", handle)] := by
  rw [shownIn, handleOf?_value]
  simp only [shownInAll_append, shownIn_strings, shownInAll, shownIn_byteRuns]
  rfl

theorem shownIn_root (ticks : Option Int) {nodes : List Tree} (hnodes : Named "node" nodes) :
    shownIn (.element rootName [] (timeShown ticks ++ nodes)) = shownInAll nodes := by
  have hhandle : handleOf? (timeShown ticks ++ nodes) = none := by
    rw [handleOf?, List.findSome?_append, ← handleOf?, ← handleOf?,
      handleOf?_of_named (named_time ticks) (by decide), handleOf?_of_named hnodes (by decide)]
    rfl
  rw [shownIn, hhandle, shownInAll_append, shownIn_time]
  rfl

/-! ## What is left -/

mutual

/-- **Where no node is unrecognised**, nothing can be answered for one. -/
theorem loses_thin : ∀ t : Tree, (∀ handle ∈ losses.handles, ("node", handle) ∉ shownIn t) →
    Loses answers losses t (thin losses t)
  | .text content, _ => .text content
  | .element name attributes inside, h => by
    rw [thin]
    refine .element (losesAll_thin inside fun handle hhandle hshown => ?_) fun htimed => ?_
    · exact h handle hhandle (by rw [shownIn, List.mem_append]; exact .inr hshown)
    · cases hhandle : handleOf? inside with
      | none =>
        rw [lostIn_of_none hhandle] at htimed
        cases htimed
      | some handle =>
        rw [lostIn_of_handle hhandle] at htimed
        obtain ⟨rfl, hlost⟩ := mtime_mem_parts.mp htimed
        exact h handle hlost (by simp [shownIn, hhandle])

theorem losesAll_thin : ∀ ts : List Tree,
    (∀ handle ∈ losses.handles, ("node", handle) ∉ shownInAll ts) →
    LosesAll answers losses ts (thinAll losses ts)
  | [], _ => .nil
  | t :: ts, h =>
    .cons (loses_thin t fun handle hhandle hshown =>
        h handle hhandle (List.mem_append_left _ hshown))
      (losesAll_thin ts fun handle hhandle hshown =>
        h handle hhandle (List.mem_append_right _ hshown))

end

theorem losesAll_time (ticks : Option Int) :
    LosesAll answers losses (timeShown ticks) (timeShown ticks) := by
  have h : LosesAll answers losses (timeShown ticks) (thinAll losses (timeShown ticks)) :=
    losesAll_thin _ fun _ _ hshown => by
      rw [shownIn_time] at hshown
      cases hshown
  rwa [thin_time] at h

theorem losesAll_byteRuns (runs : List (Int × Int)) :
    LosesAll answers losses [runsTree runs] [runsTree runs] := by
  have h : Loses answers losses (runsTree runs) (thin losses (runsTree runs)) :=
    loses_thin _ fun _ _ hshown => by
      rw [shownIn_byteRuns] at hshown
      cases hshown
  rw [thin_byteRuns] at h
  exact .cons h .nil

theorem Loses.nameOf? {t t' : Tree} (h : Loses answers losses t t') : nameOf? t' = nameOf? t := by
  cases h <;> rfl

theorem Named.loses {ts' : List Tree} (hnamed : Named name ts) (h : LosesAll answers losses ts ts') :
    Named name ts' := by
  induction ts generalizing ts' with
  | nil =>
    cases h
    exact .nil
  | cons t ts ih =>
    obtain ⟨ht, hts⟩ := List.forall_mem_cons.mp hnamed
    cases h with
    | cons hleft hrest => exact List.forall_mem_cons.mpr ⟨hleft.nameOf?.trans ht, ih hts hrest⟩

/-- **A node** loses its time and its byte runs, and may get a time that is answered. -/
theorem loses_node {values nodes values' nodes' : List Tree} {handle : Int} {time : Option Int}
    (marks : List Attribute) (ticks : Option Int) (length : Int) (hvalues : Named "value" values)
    (hnodes : Named "node" nodes) (hv : LosesAll answers losses values values')
    (hn : LosesAll answers losses nodes nodes') (hanswer : answers handle time) :
    Loses answers losses
      (.element "node" marks
        (timeShown ticks ++ [runsTree [(handle, length)]] ++ values ++ nodes))
      (.element "node" marks
        ((if handle ∈ losses.handles then timeShown time
          else timeShown ticks ++ [runsTree [(handle, length)]]) ++ values' ++ nodes')) := by
  have hinside := (((losesAll_time ticks).append (losesAll_byteRuns [(handle, length)])).append
    hv).append hn
  have hhandle := handleOf?_node ticks handle length values nodes
  by_cases hlost : handle ∈ losses.handles
  · have hparts : losses.parts "node" handle = ["mtime", "byte_runs"] := by
      rw [Losses.parts, if_pos rfl, if_pos hlost]
    have hleft : Loses answers losses (.element "node" marks _) _ :=
      .untimed hinside hhandle (mtime_mem_parts.mpr ⟨rfl, hlost⟩) hanswer
    simp only [hparts, List.filter_append] at hleft
    rw [(named_time ticks).filter_lost (by decide), (named_byteRuns _).filter_lost (by decide),
      (hvalues.loses hv).filter_kept (by decide), (hnodes.loses hn).filter_kept (by decide),
      List.append_nil, List.nil_append, ← List.append_assoc (timeShown time)] at hleft
    rwa [if_pos hlost]
  · have hparts : lostIn losses "node"
        (timeShown ticks ++ [runsTree [(handle, length)]] ++ values ++ nodes) = [] := by
      rw [lostIn_of_handle hhandle, Losses.parts, if_pos rfl, if_neg hlost]
    have hleft : Loses answers losses (.element "node" marks _) _ :=
      .element hinside (hparts ▸ List.not_mem_nil)
    rw [hparts, filter_kept_nil] at hleft
    rwa [if_neg hlost]

/-- The root loses nothing of its own. -/
theorem loses_root {ts' : List Tree} (h : LosesAll answers losses ts ts') :
    Loses answers losses (.element rootName [] ts) (.element rootName [] ts') := by
  have hparts : lostIn losses rootName ts = [] := lostIn_of_parts (fun handle => by
    rw [Losses.parts, if_neg (by decide), if_neg (by decide)]) ts
  have hleft : Loses answers losses (.element rootName [] ts) _ :=
    .element h (hparts ▸ List.not_mem_nil)
  rwa [hparts, filter_kept_nil] at hleft

mutual

/-- **Where no time stamp is answered**, the report is left without what was lost. -/
theorem Loses.eq_thin
    (hnone : ∀ handle ∈ losses.handles, ∀ time, answers handle time → timeShown time = []) :
    ∀ {t t' : Tree}, Loses answers losses t t' → t' = thin losses t
  | _, _, .text _ => rfl
  | _, _, .element hinside _ => by rw [thin, hinside.eq_thin hnone]
  | _, _, .untimed hinside hhandle hlost hanswer => by
    rw [thin, lostIn_of_handle hhandle, hinside.eq_thin hnone,
      hnone _ (mtime_mem_parts.mp hlost).2 _ hanswer, List.nil_append]

theorem LosesAll.eq_thin
    (hnone : ∀ handle ∈ losses.handles, ∀ time, answers handle time → timeShown time = []) :
    ∀ {ts ts' : List Tree}, LosesAll answers losses ts ts' → ts' = thinAll losses ts
  | _, _, .nil => rfl
  | _, _, .cons ht hts => by rw [thinAll, ht.eq_thin hnone, hts.eq_thin hnone]

end

/-! ## Nothing lost -/

theorem parts_nothing (name : String) (handle : Int) : ({} : Losses).parts name handle = [] := by
  simp [Losses.parts]

mutual

/-- Nothing is taken out if nothing was lost. -/
theorem thin_nothing : ∀ t : Tree, thin {} t = t
  | .text _ => rfl
  | .element name attributes inside => by
    rw [thin, lostIn_of_parts (parts_nothing name), filter_kept_nil, thinAll_nothing inside]

theorem thinAll_nothing : ∀ ts : List Tree, thinAll {} ts = ts
  | [] => rfl
  | t :: ts => by rw [thinAll, thin_nothing t, thinAll_nothing ts]

end

end Report

end HiveDump
