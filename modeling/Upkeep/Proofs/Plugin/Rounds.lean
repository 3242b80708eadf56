import Upkeep.Plugin.NodeStatus
import Upkeep.Proofs.Data.Fields
import Upkeep.Proofs.Host.Files
import Upkeep.Proofs.Job.Candid
import Upkeep.Session.Replay
import Mathlib.Data.List.Chain
import Mathlib.Data.List.Induction

/-! # Rounds of the status check — which inventory a check is compared with

    A check leaves the inventory in the store, and a later check finds it there.
    So what a check says about missing nodes depends on all that came before:
    checks that have failed over nodes that are down, checks that could not read
    the answer of the device, and whatever other plugins have done in between.

    One round is computed from its answer and the store that it finds
    (`Round.verdict`).  It leaves the store alone if it finds no nodes, and else
    replaces the inventory, also when it fails.  So by induction over the rounds a
    store holds the inventory of the latest round that has found nodes
    (`stored_latest`), and that is the one that is compared with
    (`rounds_compare_latest`). -/

namespace Upkeep

/-! ## Inventories as data -/

theorem Node.ofData_fields (node : Node) :
    Node.ofData (.ofFields [("kind", .text node.kind), ("state", .text node.state)]) = .ok node :=
  rfl

/-- **DATA**: an inventory is read as it was written. -/
theorem Inventory.ofData_toData (inventory : Inventory) :
    Inventory.ofData inventory.toData = .ok inventory := by
  rw [toData, ofData, Data.toFields]
  induction inventory with
  | nil => rfl
  | cons entry rest ih =>
      obtain ⟨slot, node⟩ := entry
      rw [List.map_cons, List.mapM_cons, ih]
      dsimp only
      rw [Node.ofData_fields]
      rfl

/-- An inventory that is read off a text is in the order of the slots. -/
theorem Inventory.ordered_ofTable (text : Text) : Fields.Ordered (Inventory.ofTable text) := by
  rw [ofTable]
  split
  · split
    · exact Fields.ordered_ofList _
    · exact List.Pairwise.nil
  · exact List.Pairwise.nil

variable {σ : Type}

namespace NodeStatus

/-! ## Nodes that are gone, and nodes that are down -/

/-- The slots of an inventory that another one does not have. -/
def gone (before now : Inventory) : List String :=
  (before.filter fun (slot, _) => (Fields.get? slot now).isNone).map Prod.fst

theorem mem_gone {before now : Inventory} {slot : String} :
    slot ∈ gone before now ↔ slot ∈ before.map Prod.fst ∧ slot ∉ now.map Prod.fst := by
  rw [gone, List.mem_map, List.mem_map]
  constructor
  · rintro ⟨entry, hmem, rfl⟩
    obtain ⟨hbefore, hnone⟩ := List.mem_filter.mp hmem
    exact ⟨⟨entry, hbefore, rfl⟩, Fields.get?_eq_none_iff.mp (Option.isNone_iff_eq_none.mp hnone)⟩
  · rintro ⟨⟨entry, hbefore, rfl⟩, hnow⟩
    refine ⟨entry, List.mem_filter.mpr ⟨hbefore, ?_⟩, rfl⟩
    exact Option.isNone_iff_eq_none.mpr (Fields.get?_eq_none_iff.mpr hnow)

theorem sorted_gone {before : Inventory} (h : Fields.Ordered before) (now : Inventory) :
    (gone before now).Pairwise (· < ·) := List.pairwise_map.mpr (h.filter _)

/-- The nodes of an inventory that are not accepted. -/
def unaccepted (inventory : Inventory) : Inventory :=
  inventory.filter fun (_, node) => !node.isAccepted

theorem mem_unaccepted {inventory : Inventory} {entry : String × Node} :
    entry ∈ unaccepted inventory ↔ entry ∈ inventory ∧ entry.2.state ∉ acceptedStates := by
  rw [unaccepted, List.mem_filter]
  dsimp only [Node.isAccepted]
  rw [Bool.not_eq_true', ← Bool.not_eq_true, List.contains_iff_mem]

/-! ## The parts of a check -/

/-- The inventory that a job has stored. -/
def stored (job : Job σ) : Option Stored := Fields.get? inventoryKey job.store

/-- A comparison warns of all nodes that are gone since an inventory was stored, and of none if
    there is no such inventory. -/
theorem compare_comes (inventory : Inventory) {job : Job σ}
    {previous : Option (Inventory × Instant)}
    (h : stored job = previous.map fun (before, since) => ⟨before.toData, since⟩) :
    ∃ next, (compare inventory).comes job = (.ok (), next) ∧
      job.Told (match previous with
        | none => []
        | some (before, since) =>
          (gone before inventory).map fun slot => job.warningLine (goneMessage slot since)) next := by
  cases previous with
  | none =>
      refine ⟨job, ?_, .refl job⟩
      have hload := Task.loadAs_none Inventory.ofData h
      rw [compare, Task.comes_bind, hload]
      rfl
  | some previous =>
      obtain ⟨before, since⟩ := previous
      have hload := Task.loadAs_some h (Inventory.ofData_toData before)
      have hlog := Job.Told.load? job inventoryKey
      obtain ⟨next, hcomes, htold⟩ := Task.forM_warn
        (fun entry : String × Node => goneMessage entry.1 since)
        (before.filter fun (slot, _) => (Fields.get? slot inventory).isNone)
        (job.load? inventoryKey).2
      refine ⟨next, ?_, ?_⟩
      · rw [compare, Task.comes_bind, hload]
        exact hcomes
      · simp only [hlog.warningLine_eq] at htold
        dsimp only [gone]
        rw [List.map_map]
        exact hlog.trans htold

/-- What a check does with an inventory in the end: it stores the inventory, and fails if there are
    nodes that are down. -/
def settle (inventory : Inventory) : Task σ Unit := do
  Task.save inventoryKey inventory.toData
  if !(down inventory).isEmpty then
    Task.failWith ("Node(s) not in desired state: " ++ ", ".intercalate (down inventory))
  Task.log .info "All nodes in desired state"

/-- What a check does once the device has answered and the answer is filed. -/
def judge (inventory : Inventory) : Task σ Unit := do
  if inventory.isEmpty then Task.failWith "Failed to parse the output of 'show platform'"
  if (← Task.job).assignment.phase = some "Post-Check" then compare inventory
  settle inventory

/-- The failure over nodes that are down. -/
def downMessage (inventory : Inventory) : String :=
  "Node(s) not in desired state: " ++ ", ".intercalate
    ((unaccepted inventory).map fun (slot, node) => slot ++ " (" ++ node.state ++ ")")

theorem settle_ok {inventory : Inventory} (h : unaccepted inventory = []) (job : Job σ) :
    (settle inventory).comes job = (.ok (), (job.save inventoryKey inventory.toData).log .info
      "All nodes in desired state") := by
  have hdown : down inventory = [] := List.map_eq_nil_iff.mpr h
  rw [settle, Task.comes_bind, hdown]
  rfl

theorem settle_error {inventory : Inventory} (h : unaccepted inventory ≠ []) (job : Job σ) :
    (settle inventory).comes job = (.error (.fatal (downMessage inventory)),
      (job.save inventoryKey inventory.toData).logError (downMessage inventory)) := by
  have hdown : (down inventory).isEmpty = false :=
    List.isEmpty_eq_false_iff.mpr fun hnil => h (List.map_eq_nil_iff.mp hnil)
  rw [settle, Task.comes_bind, hdown]
  rfl

/-- In both cases the inventory is stored. -/
theorem settle_stored (inventory : Inventory) (job : Job σ) :
    stored ((settle inventory).comes job).2
      = some ⟨inventory.toData, ((settle inventory).comes job).2.host.now⟩ := by
  have hsaved : Fields.get? inventoryKey (job.save inventoryKey inventory.toData).store
      = some ⟨inventory.toData, job.host.now⟩ := (Fields.get?_insert _ _ _ _).trans (if_pos rfl)
  by_cases h : unaccepted inventory = []
  · rw [settle_ok h]
    exact hsaved
  · rw [settle_error h]
    exact hsaved

/-- An inventory with nodes is settled behind the comparison, if there is one. -/
theorem judge_comes {inventory : Inventory} (nonempty : inventory ≠ []) {job : Job σ}
    {previous : Option (Inventory × Instant)}
    (h : stored job = previous.map fun (before, since) => ⟨before.toData, since⟩) :
    ∃ next, (judge inventory).comes job = (settle inventory).comes next ∧
      job.Told (if job.assignment.phase = some "Post-Check" then match previous with
        | none => []
        | some (before, since) =>
          (gone before inventory).map fun slot => job.warningLine (goneMessage slot since)
        else []) next := by
  have hparsed : inventory.isEmpty = false := List.isEmpty_eq_false_iff.mpr nonempty
  by_cases hphase : job.assignment.phase = some "Post-Check"
  · obtain ⟨next, hcomes, htold⟩ := compare_comes inventory h
    refine ⟨next, ?_, ?_⟩
    · have hjudge : (judge inventory).comes job
          = (compare inventory >>= fun _ => settle inventory).comes job := by
        rw [judge, hparsed]
        show (if job.assignment.phase = some "Post-Check" then _ else _ : Task σ Unit).comes job = _
        rw [if_pos hphase]
      rw [hjudge, Task.comes_bind, hcomes]
    · rw [if_pos hphase]
      exact htold
  · refine ⟨job, ?_, ?_⟩
    · rw [judge, hparsed]
      show (if job.assignment.phase = some "Post-Check" then _ else _ : Task σ Unit).comes job = _
      rw [if_neg hphase]
    · rw [if_neg hphase]
      exact .refl job

variable [Session σ]

/-- A check asks the device, files the answer and judges it. -/
theorem check_eq : (check : Task σ Unit) =
    (do
      let output ← Task.showOutput "show platform"
      let hostname := (← Task.job).assignment.hostname
      let _ ← Task.saveFile (hostname ++ "-show platform") (String.ofList output)
      judge (Inventory.ofTable output)) := rfl

/-! ## Rounds -/

/-- A check on a job whose device shows an output and whose log directory can be written. -/
structure Round (σ : Type) [Session σ] where
  job : Job σ
  output : Text
  shows : ((Task.showOutput "show platform").comes job).1 = .ok output
  writes : (((Task.showOutput "show platform").comes job).2.saveFile
    (job.assignment.hostname ++ "-show platform") (String.ofList output)).1.isOk = true

namespace Round

variable (round : Round σ)

def inventory : Inventory := Inventory.ofTable round.output

def result : Except PluginError Unit := (check.comes round.job).1

def left : Job σ := (check.comes round.job).2

/-- The job behind the answer of the device, which is filed. -/
theorem comes : ∃ filed, check.comes round.job = (judge round.inventory).comes filed ∧
    round.job.Told [] filed := by
  have hwrites := round.writes
  have hshown := Job.Told.command round.job "show platform" showLimit
  have hshow : (Task.showOutput "show platform").comes round.job
      = (.ok round.output, ((Task.showOutput "show platform").comes round.job).2) :=
    Prod.ext round.shows rfl
  rw [← Task.showOutput] at hshown
  generalize ((Task.showOutput "show platform").comes round.job).2 = shown at hwrites hshown hshow
  rw [← hshown.assignment] at hwrites
  refine ⟨_, ?_, hshown.trans (.saveFile shown (shown.assignment.hostname ++ "-show platform")
    (String.ofList round.output))⟩
  obtain ⟨path, hsave⟩ := Task.comes_saveFile hwrites
  rw [check_eq, Task.comes_bind, hshow]
  dsimp only
  rw [Task.comes_bind, Task.comes_job]
  dsimp only
  rw [Task.comes_bind, hsave]
  rfl

/-- What the check leaves in the store if there are nodes. -/
def entry : Stored := ⟨round.inventory.toData, round.left.host.now⟩

end Round

/-- The warnings of a round that comes after another one, or is the first: after the work, one for
    each slot that is gone, in order. -/
inductive Warns (previous : Option (Round σ)) (round : Round σ) : List String → Prop where
  | unparsed : round.inventory = [] → Warns previous round []
  | otherwise : round.job.assignment.phase ≠ some "Post-Check" → Warns previous round []
  | first : previous = none → Warns previous round []
  | compared {before : Round σ} {slots : List String} :
      round.inventory ≠ [] → round.job.assignment.phase = some "Post-Check" →
      previous = some before → slots.Pairwise (· < ·) →
      (∀ slot, slot ∈ slots ↔
        slot ∈ before.inventory.map Prod.fst ∧ slot ∉ round.inventory.map Prod.fst) →
      Warns previous round
        (slots.map fun slot => round.job.warningLine (goneMessage slot before.left.host.now))

/-- What a round comes to that comes after another one, or is the first. -/
structure Verdict (previous : Option (Round σ)) (round : Round σ) : Prop where
  /-- Without nodes it fails, and the store is as before. -/
  unparsed : round.inventory = [] →
    round.result = .error (.fatal "Failed to parse the output of 'show platform'") ∧
    stored round.left = stored round.job
  /-- The nodes are stored, and can be read again. -/
  remembered : round.inventory ≠ [] → stored round.left = some round.entry ∧
    Inventory.ofData round.entry.value = .ok round.inventory
  /-- It succeeds if all nodes are in accepted states. -/
  passes_iff : round.inventory ≠ [] →
    (round.result = .ok () ↔ ∀ entry ∈ round.inventory, entry.2.state ∈ acceptedStates)
  /-- Otherwise it fails with the nodes that are not, in order. -/
  failed : round.inventory ≠ [] → round.result ≠ .ok () →
    ∃ nodes, Fields.Ordered nodes ∧
      (∀ entry, entry ∈ nodes ↔ entry ∈ round.inventory ∧ entry.2.state ∉ acceptedStates) ∧
      round.result = .error (.fatal ("Node(s) not in desired state: " ++
        ", ".intercalate (nodes.map fun (slot, node) => slot ++ " (" ++ node.state ++ ")")))
  /-- The board has been given the warnings, the line of the failure if it has failed, and nothing
      else. -/
  told : ∃ warnings, Warns previous round warnings ∧ round.left.host.board
    = (warnings ++ round.job.reported round.result).foldl Board.save round.job.host.board

theorem Round.verdict_unparsed (previous : Option (Round σ)) (round : Round σ)
    (h : round.inventory = []) : Verdict previous round := by
  obtain ⟨filed, hcheck, htold⟩ := round.comes
  have hjudge : (judge ([] : Inventory)).comes filed
      = (.error (.fatal "Failed to parse the output of 'show platform'"),
        filed.logError "Failed to parse the output of 'show platform'") := rfl
  rw [h, hjudge] at hcheck
  have hresult : round.result
      = .error (.fatal "Failed to parse the output of 'show platform'") :=
    congrArg Prod.fst hcheck
  have hleft : round.left = filed.logError "Failed to parse the output of 'show platform'" :=
    congrArg Prod.snd hcheck
  refine ⟨fun _ => ⟨hresult, ?_⟩, fun hne => absurd h hne, fun hne => absurd h hne,
    fun hne => absurd h hne, [], .unparsed h, ?_⟩
  · rw [hleft]
    exact congrArg (Fields.get? inventoryKey) htold.store
  · rw [hleft, hresult]
    show filed.host.board.save (filed.errorLine _) = round.job.host.board.save _
    rw [htold.board, Job.errorLine_congr htold.current]
    rfl

/-- A round with nodes comes to settling them, behind its warnings. -/
theorem Round.comes_settle (previous : Option (Round σ)) (round : Round σ)
    (nonempty : round.inventory ≠ []) (h : stored round.job = previous.map Round.entry) :
    ∃ next warnings, check.comes round.job = (settle round.inventory).comes next ∧
      Warns previous round warnings ∧ round.job.Told warnings next := by
  obtain ⟨filed, hcheck, hfiled⟩ := round.comes
  have hstored : stored filed = (previous.map fun before =>
      (before.inventory, before.left.host.now)).map fun (before, since) =>
        ⟨before.toData, since⟩ := by
    rw [stored, hfiled.store, Option.map_map]
    exact h
  obtain ⟨next, hjudge, hnext⟩ := judge_comes nonempty hstored
  simp only [hfiled.warningLine_eq, hfiled.assignment] at hnext
  refine ⟨next, _, hcheck.trans hjudge, ?_, hfiled.trans hnext⟩
  rw [List.nil_append]
  by_cases hphase : round.job.assignment.phase = some "Post-Check"
  · rw [if_pos hphase]
    cases previous with
    | none => exact .first rfl
    | some before =>
        exact .compared nonempty hphase rfl
          (sorted_gone (Inventory.ordered_ofTable before.output) _) fun _ => mem_gone
  · rw [if_neg hphase]
    exact .otherwise hphase

theorem Round.verdict_passed (previous : Option (Round σ)) (round : Round σ)
    (nonempty : round.inventory ≠ []) (h : stored round.job = previous.map Round.entry)
    (hdown : unaccepted round.inventory = []) : Verdict previous round := by
  obtain ⟨next, warnings, hcheck, hwarns, htold⟩ := round.comes_settle previous nonempty h
  have hstored := settle_stored round.inventory next
  rw [← hcheck] at hstored
  rw [settle_ok hdown] at hcheck
  have hresult : round.result = .ok () := congrArg Prod.fst hcheck
  have hleft : round.left = _ := congrArg Prod.snd hcheck
  refine ⟨fun hnil => absurd hnil nonempty, fun _ => ⟨hstored, Inventory.ofData_toData _⟩,
    fun _ => ?_, fun _ hfail => absurd hresult hfail, warnings, hwarns, ?_⟩
  · refine iff_of_true hresult fun entry hmem => Decidable.not_not.mp fun hnot => ?_
    have hlisted := mem_unaccepted.mpr ⟨hmem, hnot⟩
    rw [hdown] at hlisted
    exact nomatch hlisted
  · rw [hleft, hresult]
    exact htold.board.trans (congrArg (List.foldl _ _) (List.append_nil warnings).symm)

theorem Round.verdict_failed (previous : Option (Round σ)) (round : Round σ)
    (nonempty : round.inventory ≠ []) (h : stored round.job = previous.map Round.entry)
    (hdown : unaccepted round.inventory ≠ []) : Verdict previous round := by
  obtain ⟨next, warnings, hcheck, hwarns, htold⟩ := round.comes_settle previous nonempty h
  have hstored := settle_stored round.inventory next
  rw [← hcheck] at hstored
  rw [settle_error hdown] at hcheck
  have hresult : round.result = .error (.fatal (downMessage round.inventory)) :=
    congrArg Prod.fst hcheck
  have hleft : round.left = _ := congrArg Prod.snd hcheck
  refine ⟨fun hnil => absurd hnil nonempty, fun _ => ⟨hstored, Inventory.ofData_toData _⟩,
    fun _ => ?_, fun _ _ => ⟨unaccepted round.inventory, ?_, fun _ => mem_unaccepted, hresult⟩,
    warnings, hwarns, ?_⟩
  · refine iff_of_false ?_ fun hall => ?_
    · rw [hresult]
      exact fun hok => nomatch hok
    · obtain ⟨entry, hlisted⟩ := List.exists_mem_of_ne_nil _ hdown
      obtain ⟨hmem, hnot⟩ := mem_unaccepted.mp hlisted
      exact hnot (hall entry hmem)
  · exact (Inventory.ordered_ofTable round.output).filter _
  · -- the line of the failure comes behind the warnings
    rw [hleft, hresult, List.foldl_append, ← htold.board, Job.reported,
      ← Job.errorLine_congr htold.current]
    rfl

/-- **ROUND**: a round does as it should if the store has what the round before it has left. -/
theorem Round.verdict (previous : Option (Round σ)) (round : Round σ)
    (h : stored round.job = previous.map Round.entry) : Verdict previous round := by
  by_cases hinventory : round.inventory = []
  · exact round.verdict_unparsed previous hinventory
  · by_cases hdown : unaccepted round.inventory = []
    · exact round.verdict_passed previous hinventory h hdown
    · exact round.verdict_failed previous hinventory h hdown

/-! ## Rounds in a row -/

/-- Rounds on one job, and between them anything that leaves the stored inventory alone: at first
    there is none. -/
structure Undisturbed (rounds : List (Round σ)) : Prop where
  fresh : ∀ first ∈ rounds.head?, stored first.job = none
  kept : rounds.IsChain fun one next => stored next.job = stored one.left

/-- The latest of some rounds that has found nodes. -/
def latest (rounds : List (Round σ)) : Option (Round σ) :=
  (rounds.filter fun round => !round.inventory.isEmpty).getLast?

theorem latest_concat_unparsed (rounds : List (Round σ)) {round : Round σ}
    (h : round.inventory = []) : latest (rounds ++ [round]) = latest rounds := by
  rw [latest, List.filter_append, List.filter_cons_of_neg (by rw [h]; decide), List.filter_nil,
    List.append_nil, latest]

theorem latest_concat_parsed (rounds : List (Round σ)) {round : Round σ}
    (h : round.inventory ≠ []) : latest (rounds ++ [round]) = some round := by
  have hparsed : (!round.inventory.isEmpty) = true := by
    rw [List.isEmpty_eq_false_iff.mpr h]
    rfl
  have hround : [round].filter (fun round => !round.inventory.isEmpty) = [round] :=
    List.filter_cons_of_pos hparsed
  rw [latest, List.filter_append, hround, List.getLast?_concat]

/-- **STORE**: a round finds in the store what the latest round with nodes has left there. -/
theorem stored_latest {earlier later : List (Round σ)} {round : Round σ}
    (h : Undisturbed (earlier ++ round :: later)) :
    stored round.job = (latest earlier).map Round.entry := by
  induction earlier using List.reverseRecOn generalizing round later with
  | nil => exact h.fresh round rfl
  | append_singleton earlier before ih =>
      rw [List.append_assoc] at h
      have hbefore := ih h
      have hverdict := before.verdict _ hbefore
      have hkept : stored round.job = stored before.left :=
        (List.isChain_append_cons_cons.mp h.kept).2.1
      by_cases hinventory : before.inventory = []
      · rw [latest_concat_unparsed earlier hinventory, hkept, (hverdict.unparsed hinventory).2,
          hbefore]
      · rw [latest_concat_parsed earlier hinventory, hkept, (hverdict.remembered hinventory).1]
        rfl

/-- **ROUNDS**: each round of a row does as it should, behind the latest round with nodes. -/
theorem rounds_compare_latest (rounds : List (Round σ)) (h : Undisturbed rounds) :
    ∀ earlier round later, rounds = earlier ++ round :: later → Verdict (latest earlier) round := by
  rintro earlier round later rfl
  exact round.verdict _ (stored_latest h)

/-- A job in a phase, over a device that shows some rows and with an empty directory for files. -/
def checking (phase : String) (rows : List String) (store : List (String × Stored)) : Job Replay where
  assignment := { hostname := "r1", phase := some phase, logDir := "" }
  session := some (({ prompt := .ofText "router#" } : Replay).respond "show platform"
    ("\n".intercalate (["Slot Type State", "---- ---- -----"] ++ rows)))
  host := { files := { root := "/" } }
  store := store

@[simp] theorem checking_store (phase : String) (rows : List String)
    (store : List (String × Stored)) : (checking phase rows store).store = store := rfl

omit [Session σ] in
/-- The answer can be filed in the empty directory. -/
theorem saveFile_here {job : Job σ} (hdir : job.assignment.logDir = "")
    (hempty : job.host.files.root = "/" ∧ job.host.files.nodes = []) (text : String) :
    (job.saveFile "r1-show platform" text).1.isOk = true := by
  have hfiles : job.host.files = ⟨"/", []⟩ := by rw [← hempty.1, ← hempty.2]
  have hname : fileName "r1-show platform" = "r1-show-platform.txt" := by decide +kernel
  have hpath : joinPath "" "r1-show-platform.txt" = "r1-show-platform.txt" := by simp [joinPath]
  have hmake : (Files.mk "/" []).makeDirectories "" = .ok ⟨"/", []⟩ := rfl
  have hresolve : (Files.mk "/" []).resolve "r1-show-platform.txt"
      = .ok ["r1-show-platform.txt"] := by
    have hwalk : (Files.mk "/" []).walk [] (pathNames "r1-show-platform.txt")
        = .ok ["r1-show-platform.txt"] := rfl
    rw [Files.resolve, hwalk]
    simp
  have hopen : (Files.mk "/" []).openForWriting "r1-show-platform.txt"
      = .ok (["r1-show-platform.txt"], [], false) := by
    rw [Files.openForWriting, hresolve]
    rfl
  obtain ⟨written, hwrite⟩ := Files.write_of_open (encodeUtf8 text.toList) hopen
  rw [Job.saveFile, hname, hdir, hpath, hfiles, hmake]
  dsimp only [Job.onHost]
  rw [hwrite]
  rfl

/-- A round before the work: two nodes are up. -/
def beforeWork : Round Replay where
  job := checking "Pre-Check" ["0    A    ok", "R0   B    ok, active"] []
  output := "Slot Type State\n---- ---- -----\n0    A    ok\nR0   B    ok, active".toList
  shows := Action.toOption_eq_some_iff.mp (by decide +kernel)
  writes := saveFile_here rfl (by decide +kernel) _

/-- A round after the work: one of them is gone, and the other one is not back yet. -/
def afterWork : Round Replay where
  job := checking "Post-Check" ["R0   B    booting"] beforeWork.left.store
  output := "Slot Type State\n---- ---- -----\nR0   B    booting".toList
  shows := Action.toOption_eq_some_iff.mp (by decide +kernel)
  writes := saveFile_here rfl (by decide +kernel) _

/-- The round after the work fails over one node, behind a warning about the other one. -/
theorem lost_node_is_missed :
    Undisturbed [beforeWork, afterWork] ∧
      afterWork.result = .error (.fatal "Node(s) not in desired state: R0 (booting)") ∧
      afterWork.left.host.board.jobInfo = [
        "WARNING: " ++ goneMessage "0" beforeWork.left.host.now,
        "ERROR: Node(s) not in desired state: R0 (booting)"] := by
  have hjob : afterWork.job
      = checking "Post-Check" ["R0   B    booting"] beforeWork.left.store := rfl
  have hrow : Undisturbed [beforeWork, afterWork] := by
    refine ⟨?_, List.isChain_pair.mpr (by rw [stored, stored, hjob, checking_store])⟩
    intro first hfirst
    obtain rfl := Option.some.inj hfirst
    rfl
  have hslots : beforeWork.inventory.map Prod.fst = ["0", "R0"] := by decide +kernel
  have hnodes : afterWork.inventory = [("R0", ⟨"B", "booting"⟩)] := by decide +kernel
  have hlatest : latest [beforeWork] = some beforeWork :=
    latest_concat_parsed [] fun hnil => by rw [hnil] at hslots; exact nomatch hslots
  have hverdict := rounds_compare_latest _ hrow [beforeWork] afterWork [] rfl
  rw [hlatest] at hverdict
  have hparsed : afterWork.inventory ≠ [] := by rw [hnodes]; exact List.cons_ne_nil _ _
  have hfails : afterWork.result ≠ .ok () := by
    rw [ne_eq, hverdict.passes_iff hparsed, hnodes]
    decide
  obtain ⟨nodes, hordered, hmem, hresult⟩ := hverdict.failed hparsed hfails
  have hdown : nodes = [("R0", ⟨"B", "booting"⟩)] := by
    refine hordered.eq_of_mem_iff (List.pairwise_singleton _ _) fun entry => ?_
    rw [hmem, hnodes, List.mem_singleton]
    exact and_iff_left_of_imp fun heq => by rw [heq]; decide
  rw [hdown] at hresult
  obtain ⟨warnings, hwarns, hboard⟩ := hverdict.told
  have hwarnings : warnings = ["WARNING: " ++ goneMessage "0" beforeWork.left.host.now] := by
    cases hwarns with
    | unparsed hnil => exact absurd hnil hparsed
    | otherwise hphase => exact absurd rfl hphase
    | first hnone => exact nomatch hnone
    | @compared before slots _ _ hbefore hsorted hgone =>
        obtain rfl := Option.some.inj hbefore
        have hslot : slots = ["0"] := by
          refine hsorted.eq_of_mem_iff (List.pairwise_singleton _ _) fun slot => ?_
          rw [hgone, hslots, hnodes, List.mem_singleton]
          constructor
          · rintro ⟨hseen, hnow⟩
            rcases List.mem_cons.mp hseen with rfl | hother
            · rfl
            · exact absurd hother hnow
          · rintro rfl
            exact ⟨List.mem_cons_self, by decide⟩
        rw [hslot]
        rfl
  refine ⟨hrow, hresult, ?_⟩
  rw [hboard, hwarnings, hresult]
  rfl

end NodeStatus

end Upkeep
