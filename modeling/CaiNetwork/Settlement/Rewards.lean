/-
CaiNetwork/Settlement/Rewards.lean

Who gets the workers' reward (`job_reward_distribution.py`), and what the settlement says to it.

`distribute_worker_reward` divides the reward by layers with the largest remainders, and the audit
of the settlement divides it again over the stored payouts.  Both break ties by node id; tied
participants of one node are served in the order of the job and in the order of the layers.  The two
agree exactly when in every such group those that are served start no later than the others
(`rewardDivision_iff`, `twoShards_refused`).
-/

import CaiNetwork.LargestRemainder
import CaiNetwork.FundingPlan
import CaiNetwork.Settlement.Import

namespace CaiNetwork

open List Action

open LargestRemainder

/-! ### Sort keys -/

section Orders

variable {α : Type}

/-- Smaller numbers first. -/
def ascending (key : α → Int) (a b : α) : Prop := key a ≤ key b

/-- Texts in the order of their code points. -/
def byText (key : α → String) (a b : α) : Prop := Json.stringLe (key a) (key b) = true

variable {number : α → Int} {key : α → String}

instance : DecidableRel (ascending number) := fun a b =>
  inferInstanceAs (Decidable (number a ≤ number b))

instance : Std.Total (ascending number) := ⟨fun a b => le_total (number a) (number b)⟩

instance : IsTrans α (ascending number) := ⟨fun _ _ _ => le_trans⟩

instance : DecidableRel (byText key) := fun a b =>
  inferInstanceAs (Decidable (Json.stringLe (key a) (key b) = true))

instance : Std.Total (byText key) := ⟨fun _ _ => Json.textLe_total _ _⟩

instance : IsTrans α (byText key) := ⟨fun _ _ _ => Json.textLe_trans⟩

/-- `(-remainder, node_id)`. -/
abbrev remainderOrder (remainder : α → Int) (node : α → String) : α → α → Prop :=
  Then (ascending fun a => - remainder a) (byText node)

/-- `(layer_start is None, layer_start or 10**9, node_id)`. -/
abbrev startOrder (start : α → Option Int) (node : α → String) : α → α → Prop :=
  Then (ascending fun a => if (start a).isNone then 1 else 0)
    (Then (ascending fun a => (start a).getD (10 ^ 9)) (byText node))

end Orders

/-- The order in which the audit serves payouts. -/
theorem splitPartBefore_iff (a b : SplitPart) : splitPartBefore a b ↔
    remainderOrder SplitPart.remainder (fun part => part.payout.nodeId) a b := by
  simp only [splitPartBefore, Then, ascending, byText]
  constructor
  · rintro (hlt | ⟨heq, hnode⟩)
    · exact ⟨by omega, fun h => absurd h (by omega)⟩
    · exact ⟨by omega, fun _ => hnode⟩
  · rintro ⟨hle, hnode⟩
    by_cases hlt : b.remainder < a.remainder
    · exact .inl hlt
    · exact .inr ⟨by omega, hnode (by omega)⟩

/-! ### The distributor -/

/-- A participant of an execution. -/
structure RewardParticipant where
  nodeId : String
  runnerId : Option String := none
  layerStart : Option Int := none
  layerEnd : Option Int := none
  /-- `item.get("layer_count")`, where the key is there. -/
  layerCount : Option Int := none

/-- `max(int(item.get("layer_count", 1)), 1)`. -/
def RewardParticipant.weight (item : RewardParticipant) : Int := max (item.layerCount.getD 1) 1

/-- An entry of `raw_parts`. -/
structure RewardPart where
  rewardAtomic : Int
  remainder : Int
  item : RewardParticipant

/-- The loop `for index in range(remainder)`: a unit each, from the front and around. -/
def addRemainder (remainder : Nat) (parts : List RewardPart) : List RewardPart :=
  parts.mapIdx fun j part =>
    { part with rewardAtomic := part.rewardAtomic +
        ((List.range remainder).countP fun i => i % parts.length = j : Nat) }

/-- The entry of a participant in `results`. -/
def RewardParticipant.result (item : RewardParticipant) (totalWeight rewardAtomic : Int) :
    Participant where
  nodeId := item.nodeId
  rewardAtomic := rewardAtomic
  runnerId := item.runnerId
  layerStart := item.layerStart
  layerEnd := item.layerEnd
  layerCount := item.weight
  shareBps := item.weight * 10000 / totalWeight
  note := some "Distributed by pipeline layer share."

/-- `total_weight`. -/
def totalWeight (participants : List RewardParticipant) : Int :=
  let sum := (participants.map RewardParticipant.weight).sum
  if sum ≤ 0 then participants.length else sum

/-- `distribute_worker_reward`. -/
def distributeWorkerReward (totalRewardAtomic : Int) (participants : List RewardParticipant) :
    List Participant :=
  if totalRewardAtomic ≤ 0 ∨ participants = [] then []
  else
    let weight := totalWeight participants
    let parts : List RewardPart := participants.map fun item =>
      ⟨totalRewardAtomic * item.weight / weight, totalRewardAtomic * item.weight % weight, item⟩
    let remainder := totalRewardAtomic - (parts.map RewardPart.rewardAtomic).sum
    let sorted := parts.insertionSort
      (remainderOrder RewardPart.remainder fun part => part.item.nodeId)
    let results := (addRemainder remainder.toNat sorted).map fun part =>
      part.item.result weight part.rewardAtomic
    results.insertionSort (startOrder Participant.layerStart Participant.nodeId)

/-! ### The division -/

open RewardParticipant (weight)
open Participant (layerCount)

section Division

variable {total : Int} {participants : List RewardParticipant}

theorem RewardParticipant.weight_pos (item : RewardParticipant) : 0 < item.weight :=
  lt_of_lt_of_le one_pos (le_max_right _ _)

theorem sum_weight_pos (h : participants ≠ []) :
    0 < (participants.map weight).sum := by
  refine sum_pos _ (fun x hx => ?_) (by simpa using h)
  obtain ⟨item, -, rfl⟩ := mem_map.mp hx
  exact item.weight_pos

theorem totalWeight_eq (h : participants ≠ []) :
    totalWeight participants = (participants.map weight).sum :=
  if_neg (not_le.mpr (sum_weight_pos h))

theorem totalWeight_pos (h : participants ≠ []) : 0 < totalWeight participants := by
  rw [totalWeight_eq h]
  exact sum_weight_pos h

variable (total participants)

/-- The order in which participants are served. -/
abbrev servingOrder : RewardParticipant → RewardParticipant → Prop :=
  remainderOrder (rem weight total (totalWeight participants))
    RewardParticipant.nodeId

/-- The units that the whole parts leave. -/
def unitsLeft : Nat :=
  (left weight total (totalWeight participants) participants).toNat

/-- What a participant gets, with or without one of the units. -/
def RewardParticipant.served (item : RewardParticipant) (extra : Bool) : Participant :=
  item.result (totalWeight participants)
    (share weight total (totalWeight participants) item + if extra then 1 else 0)

/-- The participants as they are served. -/
abbrev queue : List RewardParticipant :=
  participants.insertionSort (servingOrder total participants)

/-- The results before they are put in the order of the layers. -/
def servedList : List Participant :=
  ((queue total participants).take (unitsLeft total participants)).map
      (·.served total participants true) ++
    ((queue total participants).drop (unitsLeft total participants)).map
      (·.served total participants false)

variable {total participants}

theorem unitsLeft_bounds (total : Int) (h : participants ≠ []) :
    (unitsLeft total participants : Int) =
        left weight total (totalWeight participants) participants ∧
      unitsLeft total participants < participants.length := by
  have hbounds := @left_bounds _ _ total _ _ (totalWeight_pos h) (totalWeight_eq h).symm h
  rw [unitsLeft]
  omega

theorem unitsLeft_le (h : participants ≠ []) :
    unitsLeft total participants ≤ (queue total participants).length := by
  rw [length_insertionSort]
  exact (unitsLeft_bounds total h).2.le

/-- Where there are fewer units than places, a place gets one unit or none. -/
theorem countP_range_mod {k n : Nat} (hk : k ≤ n) {j : Nat} :
    (List.range k).countP (fun i => i % n = j) = if j < k then 1 else 0 := by
  have hsame : (List.range k).countP (fun i => i % n = j) = (List.range k).count j := by
    refine countP_congr fun i hi => ?_
    rw [Nat.mod_eq_of_lt (lt_of_lt_of_le (mem_range.mp hi) hk)]
    simp
  rw [hsame]
  split
  · exact count_eq_one_of_mem nodup_range (mem_range.mpr ‹_›)
  · exact count_eq_zero.mpr fun h => absurd (mem_range.mp h) ‹_›

/-- **The distributor serves the first participants** in the order of the remainders, and returns
them in the order of the layers. -/
theorem distributeWorkerReward_eq (htotal : 0 < total) (h : participants ≠ []) :
    distributeWorkerReward total participants = (servedList total participants).insertionSort
      (startOrder Participant.layerStart Participant.nodeId) := by
  let part : RewardParticipant → RewardPart := fun item =>
    ⟨share weight total (totalWeight participants) item,
      rem weight total (totalWeight participants) item, item⟩
  have hsorted : (participants.map part).insertionSort
        (remainderOrder RewardPart.remainder fun part => part.item.nodeId) =
      (queue total participants).map part :=
    (map_insertionSort _ _ part participants fun _ _ _ _ => Iff.rfl).symm
  have hunits : total - ((participants.map part).map RewardPart.rewardAtomic).sum =
      left weight total (totalWeight participants) participants := by
    rw [map_map]
    rfl
  have hdealt : (addRemainder (unitsLeft total participants)
        ((queue total participants).map part)).map
          (fun part => part.item.result (totalWeight participants) part.rewardAtomic) =
      servedList total participants := by
    rw [servedList, ← mapIdx_lt fun (item : RewardParticipant) extra =>
      item.served total participants extra]
    refine ext_getElem (by simp [addRemainder]) fun j _ _ => ?_
    simp only [addRemainder, getElem_map, getElem_mapIdx, length_map,
      countP_range_mod (unitsLeft_le h)]
    by_cases hj : j < unitsLeft total participants <;> simp [hj, RewardParticipant.served, part]
  rw [distributeWorkerReward, if_neg (by simp [h, htotal])]
  show (((addRemainder (total - ((participants.map part).map RewardPart.rewardAtomic).sum).toNat
    ((participants.map part).insertionSort _)).map _).insertionSort _) = _
  rw [hsorted, hunits, ← unitsLeft, hdealt]

/-! ### What everyone gets -/

variable (total) in
/-- The order in which the audit serves payouts, on the results. -/
abbrev auditOrder (whole : Int) : Participant → Participant → Prop :=
  remainderOrder (rem layerCount total whole) Participant.nodeId

variable (total) in
/-- The item has one of the units that the whole parts leave. -/
def gotUnit (whole : Int) (item : Participant) : Bool :=
  item.rewardAtomic ≠ share layerCount total whole item

theorem gotUnit_served (item : RewardParticipant) (extra : Bool) :
    gotUnit total (totalWeight participants) (item.served total participants extra) = extra := by
  have hshare : share layerCount total (totalWeight participants)
      (item.served total participants extra) =
    share weight total (totalWeight participants) item := rfl
  rw [gotUnit, hshare]
  cases extra <;> simp [RewardParticipant.served, RewardParticipant.result]

theorem mem_servedList {item : Participant} (h : item ∈ servedList total participants) :
    ∃ p ∈ participants, ∃ extra, item = p.served total participants extra := by
  obtain h | h := mem_append.mp h
  · obtain ⟨p, hp, rfl⟩ := mem_map.mp h
    exact ⟨p, (mem_insertionSort _).mp (mem_of_mem_take hp), true, rfl⟩
  · obtain ⟨p, hp, rfl⟩ := mem_map.mp h
    exact ⟨p, (mem_insertionSort _).mp (mem_of_mem_drop hp), false, rfl⟩

/-- A number that the units do not change has the same values over the results. -/
theorem map_servedList_perm {β : Type} (f : Participant → β) (g : RewardParticipant → β)
    (h : ∀ p extra, f (p.served total participants extra) = g p) :
    ((servedList total participants).map f).Perm (participants.map g) := by
  have hcomp : ∀ extra, (f ∘ fun p : RewardParticipant => p.served total participants extra) = g :=
    fun extra => funext fun p => h p extra
  rw [servedList, map_append, map_map, map_map, hcomp, hcomp, ← map_append, take_append_drop]
  exact (perm_insertionSort _ _).map g

theorem pairwise_servedList :
    (servedList total participants).Pairwise (auditOrder total (totalWeight participants)) := by
  have hsorted : (queue total participants).Pairwise (servingOrder total participants) :=
    pairwise_insertionSort _ _
  rw [← take_append_drop (unitsLeft total participants)
    (queue total participants), pairwise_append] at hsorted
  rw [servedList, pairwise_append, pairwise_map, pairwise_map]
  refine ⟨hsorted.1, hsorted.2.1, fun a ha b hb => ?_⟩
  obtain ⟨p, hp, rfl⟩ := mem_map.mp ha
  obtain ⟨q, hq, rfl⟩ := mem_map.mp hb
  exact hsorted.2.2 p hp q hq

theorem markedFirst_servedList :
    MarkedFirst (gotUnit total (totalWeight participants)) (servedList total participants) := by
  rw [servedList, MarkedFirst, pairwise_append, pairwise_map, pairwise_map]
  simp only [gotUnit_served, mem_map]
  refine ⟨pairwise_of_forall fun _ _ h => h, pairwise_of_forall fun _ _ h => h, ?_⟩
  rintro _ ⟨p, -, rfl⟩ _ ⟨q, -, rfl⟩ h
  rw [gotUnit_served]

theorem countP_servedList (h : participants ≠ []) :
    (servedList total participants).countP (gotUnit total (totalWeight participants)) =
      unitsLeft total participants := by
  rw [servedList, countP_append, countP_map, countP_map]
  have htrue : ∀ extra, (gotUnit total (totalWeight participants) ∘
      fun p : RewardParticipant => p.served total participants extra) = fun _ => extra :=
    fun extra => funext fun p => gotUnit_served p extra
  rw [htrue, htrue, countP_true, countP_false]
  exact (Nat.add_zero _).trans (length_take_of_le (unitsLeft_le h))

/-- **The amounts make up the reward.** -/
theorem sum_servedList (h : participants ≠ []) :
    ((servedList total participants).map Participant.rewardAtomic).sum = total := by
  obtain ⟨hunits, hlt⟩ := unitsLeft_bounds total h
  have hperm := perm_insertionSort (servingOrder total participants) participants
  have hdealt := sum_dealt (hunits.trans (left_perm hperm).symm) (hperm.length_eq ▸ hlt.le)
  rw [servedList, map_append, sum_append, map_map, map_map]
  simpa [Function.comp_def, RewardParticipant.served, RewardParticipant.result] using hdealt

/-- **No amount is a unit or more away from its share.** -/
theorem close_servedList (h : participants ≠ []) {item : Participant}
    (hitem : item ∈ servedList total participants) :
    |item.rewardAtomic * totalWeight participants - total * item.layerCount| <
      totalWeight participants := by
  have hperm := perm_insertionSort (servingOrder total participants) participants
  have hsum : ((queue total participants).map
      weight).sum = totalWeight participants :=
    ((hperm.map _).sum_eq).trans (totalWeight_eq h).symm
  obtain hitem | hitem := mem_append.mp hitem
  · obtain ⟨p, hp, rfl⟩ := mem_map.mp hitem
    refine share_close (totalWeight_pos h) p fun _ => ?_
    refine rem_pos_of_mem_take (totalWeight_pos h) hsum 
      ((unitsLeft_bounds total h).1.trans (left_perm hperm).symm)
      (hperm.length_eq ▸ (unitsLeft_bounds total h).2.le) ?_ hp
    exact (pairwise_insertionSort _ _).imp fun hab => neg_le_neg_iff.mp hab.1
  · obtain ⟨p, -, rfl⟩ := mem_map.mp hitem
    exact share_close (totalWeight_pos h) p nofun

end Division

/-! ### The audit of recorded payouts -/

section Audit

variable {money : MoneyPolicy} {moment : Moment} {node : Node} {args : PayoutArgs}
  {entries : List (String × Participant)} {total : Int}

/-- The sum of the layers of results. -/
def layerSum (entries : List (String × Participant)) : Int :=
  (entries.map fun entry => entry.2.layerCount).sum

/-- The entries in the order in which the audit serves them. -/
def auditSorted (total : Int) (entries : List (String × Participant)) :
    List (String × Participant) :=
  entries.insertionSort fun a b => auditOrder total (layerSum entries) a.2 b.2

/-- The units that the whole parts leave in the audit. -/
def auditUnits (total : Int) (entries : List (String × Participant)) : Nat :=
  (left (fun entry => entry.2.layerCount) total (layerSum entries) entries).toNat

/-- The part of a payout in the audit. -/
def auditPart (money : MoneyPolicy) (moment : Moment) (node : Node) (args : PayoutArgs)
    (total whole : Int) (entry : String × Participant) : SplitPart :=
  ⟨newPayout money moment node args entry.1 entry.2,
    share layerCount total whole entry.2, rem layerCount total whole entry.2⟩

theorem map_auditSorted : (auditSorted total entries).map Prod.snd =
    (entries.map Prod.snd).insertionSort (auditOrder total (layerSum entries)) :=
  map_insertionSort _ (auditOrder total (layerSum entries)) Prod.snd entries fun _ _ _ _ => Iff.rfl

theorem weight_newPayout {entry : String × Participant} (h : 1 ≤ entry.2.layerCount) :
    (newPayout money moment node args entry.1 entry.2).weight = entry.2.layerCount := by
  show max (if entry.2.layerCount = 0 then 1 else entry.2.layerCount) 1 = entry.2.layerCount
  rw [if_neg (by omega), max_eq_left h]

/-- The division that the audit makes of recorded payouts. -/
theorem deterministicSplit_newPayouts (htotal : 0 < total) (hne : entries ≠ [])
    (hcounts : ∀ entry ∈ entries, 1 ≤ entry.2.layerCount) :
    deterministicSplit total (entries.map fun entry =>
        newPayout money moment node args entry.1 entry.2) =
      (handOut (auditUnits total entries) ((auditSorted total entries).map
        (auditPart money moment node args total (layerSum entries)))).insertionSort
          payoutBefore := by
  have hweights : (entries.map fun entry => newPayout money moment node args entry.1 entry.2).map
      WorkerPayoutRecord.weight = entries.map fun entry => entry.2.layerCount := by
    rw [map_map]
    exact map_congr_left fun entry hentry => weight_newPayout (hcounts entry hentry)
  have hparts : (entries.map fun entry => newPayout money moment node args entry.1 entry.2).map
      (fun item => (⟨item, total * item.weight / layerSum entries,
        total * item.weight % layerSum entries⟩ : SplitPart)) =
      entries.map (auditPart money moment node args total (layerSum entries)) := by
    rw [map_map]
    refine map_congr_left fun entry hentry => ?_
    show (⟨_, total * WorkerPayoutRecord.weight _ / _, total * WorkerPayoutRecord.weight _ % _⟩ :
      SplitPart) = _
    rw [weight_newPayout (hcounts entry hentry)]
    rfl
  have hsorted : (entries.map (auditPart money moment node args total
        (layerSum entries))).insertionSort splitPartBefore =
      (auditSorted total entries).map (auditPart money moment node args total (layerSum entries)) :=
    (map_insertionSort _ splitPartBefore
      (auditPart money moment node args total (layerSum entries)) entries
      fun _ _ _ _ => (splitPartBefore_iff _ _).symm).symm
  have hleft : total - ((entries.map (auditPart money moment node args total
      (layerSum entries))).map SplitPart.expectedRewardAtomic).sum =
      left (fun entry => entry.2.layerCount) total (layerSum entries) entries := by
    rw [map_map]
    rfl
  rw [deterministicSplit, if_neg (by simp [hne, htotal])]
  simp only [hweights]
  rw [← layerSum, hparts, hsorted, hleft, ← auditUnits]

/-- What the audit expects of the entry at a place is what it has, exactly when it has a unit there
and only there. -/
theorem audited_iff {entry : String × Participant} {j n : Nat} (hn : auditUnits total entries ≤ n)
    (hamount : entry.2.rewardAtomic =
      share layerCount total (layerSum entries) entry.2 +
        if gotUnit total (layerSum entries) entry.2 then 1 else 0) :
    entry.2.rewardAtomic = share layerCount total (layerSum entries) entry.2 +
        ((List.range (auditUnits total entries)).countP fun i => i % n = j : Nat) ↔
      gotUnit total (layerSum entries) entry.2 = decide (j < auditUnits total entries) := by
  rw [countP_range_mod hn, hamount]
  by_cases hj : j < auditUnits total entries
  · cases gotUnit total (layerSum entries) entry.2 <;> simp [hj]
  · cases gotUnit total (layerSum entries) entry.2 <;> simp [hj]

/-- **When the audit agrees**: the payouts with one of the units come first in its order. -/
theorem splitMatches_newPayouts_iff {settlement : SettlementRecord} (htotal : 0 < total)
    (hreward : settlement.workerRewardAtomic = total) (hne : entries ≠ [])
    (hcounts : ∀ entry ∈ entries, 1 ≤ entry.2.layerCount)
    (hamounts : ∀ entry ∈ entries, entry.2.rewardAtomic =
      share layerCount total (layerSum entries) entry.2 +
        if gotUnit total (layerSum entries) entry.2 then 1 else 0)
    (hunits : (entries.map Prod.snd).countP (gotUnit total (layerSum entries)) =
      auditUnits total entries) :
    (payoutAccount money settlement (entries.map fun entry =>
        newPayout money moment node args entry.1 entry.2)).splitMatches = true ↔
      MarkedFirst (gotUnit total (layerSum entries))
        ((entries.map Prod.snd).insertionSort (auditOrder total (layerSum entries))) := by
  have hperm : (auditSorted total entries).Perm entries := perm_insertionSort _ _
  have hlength : auditUnits total entries ≤ (auditSorted total entries).length := by
    rw [← hunits, hperm.length_eq]
    exact countP_le_length.trans_eq (length_map _)
  have hcount : ((auditSorted total entries).map Prod.snd).countP
      (gotUnit total (layerSum entries)) = auditUnits total entries :=
    ((hperm.map _).countP_eq _).trans hunits
  have hsplit : (payoutAccount money settlement (entries.map fun entry =>
      newPayout money moment node args entry.1 entry.2)).split =
      (handOut (auditUnits total entries) ((auditSorted total entries).map
        (auditPart money moment node args total (layerSum entries)))).insertionSort
          payoutBefore := by
    show deterministicSplit (max 0 settlement.workerRewardAtomic) _ = _
    rw [hreward, max_eq_right htotal.le, deterministicSplit_newPayouts htotal hne hcounts]
  have hnonempty : (payoutAccount money settlement (entries.map fun entry =>
      newPayout money moment node args entry.1 entry.2)).split ≠ [] := by
    rw [hsplit, ← length_pos_iff, length_insertionSort, handOut, length_mapIdx,
      length_map, hperm.length_eq]
    exact length_pos_of_ne_nil hne
  rw [PayoutAccount.splitMatches, if_neg hnonempty, hsplit, ← map_auditSorted, markedFirst_iff,
    hcount]
  simp only [all_eq_true, decide_eq_true_eq, mem_insertionSort, handOut,
    mem_mapIdx, length_map, getElem?_map, Option.map_eq_some_iff]
  constructor
  · rintro h j _ ⟨entry, hj, rfl⟩
    obtain ⟨hlt, hget⟩ := List.getElem?_eq_some_iff.mp hj
    refine (audited_iff hlength (hamounts entry (hperm.mem_iff.mp (mem_of_getElem? hj)))).mp ?_
    have hpart := h _ ⟨j, hlt, rfl⟩
    simp only [getElem_map, hget] at hpart
    exact hpart
  · rintro h _ ⟨j, hlt, rfl⟩
    have hj : (auditSorted total entries)[j]? = some ((auditSorted total entries)[j]) :=
      getElem?_eq_getElem hlt
    have hunit := h j _ ⟨_, hj, rfl⟩
    simp only [getElem_map]
    exact (audited_iff hlength (hamounts _ (hperm.mem_iff.mp (mem_of_getElem? hj)))).mpr hunit

end Audit

/-! ### Reading payouts back -/

section Stored

variable {money : MoneyPolicy} {moment : Moment} {node : Node} {args : PayoutArgs}

/-- The payouts that `record_worker_payouts` makes. -/
def newPayouts (money : MoneyPolicy) (moment : Moment) (node : Node) (args : PayoutArgs) :
    List WorkerPayoutRecord :=
  args.participants.map fun entry => newPayout money moment node args entry.1 entry.2

/-- The node with the payouts written. -/
def storedPayouts (node : Node) (records : List WorkerPayoutRecord) : Node :=
  { node with payouts := node.listWorkerPayouts ++ records }

/-- `list_worker_payouts(settlement_id=..., receipt_id=...)`. -/
def receiptPayouts (node : Node) (args : PayoutArgs) : List WorkerPayoutRecord :=
  (node.payoutsOf args.settlementId).filter fun item => item.receiptId = args.receiptId

/-- **Payouts are read back as they were written**, where the receipt had none before. -/
theorem receiptPayouts_storedPayouts (hnew : receiptPayouts node args = []) :
    receiptPayouts (storedPayouts node (newPayouts money moment node args)) args =
      newPayouts money moment node args := by
  have hold : (node.listWorkerPayouts.filter fun item => item.settlementId =
      args.settlementId).filter (fun item => item.receiptId = args.receiptId) = [] := by
    refine filter_eq_nil_iff.mpr fun item hitem => filter_eq_nil_iff.mp hnew item ?_
    obtain ⟨hitem, hsettlement⟩ := mem_filter.mp hitem
    exact (Table.mem_newestFirst _).mpr
      (mem_filter.mpr ⟨(Table.mem_newestFirst _).mp hitem, hsettlement⟩)
  have hall : ((newPayouts money moment node args).filter fun item =>
      item.settlementId = args.settlementId).filter (fun item => item.receiptId = args.receiptId) =
      newPayouts money moment node args := by
    rw [filter_filter, filter_eq_self]
    intro item hitem
    obtain ⟨entry, -, rfl⟩ := mem_map.mp hitem
    simp [newPayout]
  rw [receiptPayouts, Node.payoutsOf, Table.newestFirst, filter_insertionSort, storedPayouts,
    filter_append, filter_append, hold, hall, nil_append]
  -- they have one time, so sorting by time leaves them
  refine List.Pairwise.insertionSort_eq (pairwise_of_forall_mem_list fun a ha b hb => ?_)
  obtain ⟨entry, -, rfl⟩ := mem_map.mp ha
  obtain ⟨entry', -, rfl⟩ := mem_map.mp hb
  exact (Json.textLe_total _ _).elim id id

end Stored

/-! ### The distributor and the audit -/

section Agreement

variable (host : Host) (money : MoneyPolicy) (moment : Moment) (node : Node) (args : PayoutArgs)
  (settlement : SettlementRecord) (total : Int) (participants : List RewardParticipant)

/-- The results are the participants, the amounts make up the total, and each is less than a unit
away from the share of the layers. -/
structure DividedExactly (results : List Participant) : Prop where
  same : (results.map fun item => (item.nodeId, item.runnerId, item.layerStart, item.layerEnd,
    item.layerCount)).Perm (participants.map fun item => (item.nodeId, item.runnerId,
      item.layerStart, item.layerEnd, item.weight))
  sum : (results.map Participant.rewardAtomic).sum = total
  close : ∀ item ∈ results,
    |item.rewardAtomic * (participants.map weight).sum - total * item.layerCount| <
      (participants.map weight).sum

/-- The payouts are recorded: the audit and the accounting have nothing against them, neither when
they are made nor when they are read back. -/
structure PayoutsPass : Prop where
  recorded : recordWorkerPayouts host money moment args node =
    finishWorkerPayouts host money moment (some settlement) (newPayouts money moment node args)
      (storedPayouts node (newPayouts money moment node args))
  split : (payoutAccount money settlement (newPayouts money moment node args)).splitMatches = true
  accounting : validateSettlementAccounting money settlement
    (newPayouts money moment node args) = []
  readBack : validateSettlementAccounting money settlement
    (receiptPayouts (storedPayouts node (newPayouts money moment node args)) args) = []

/-- The amounts of the settlement are those of a fee quote. -/
def QuotedFor : Prop :=
  ∃ cost fee, 0 ≤ cost ∧ settlement.computeCostAtomic = cost ∧
    settlement.workerRewardAtomic = (feeQuote money cost fee).workerRewardAtomic ∧
    settlement.settlementFeeAtomic = (feeQuote money cost fee).settlementFeeAtomic ∧
    settlement.aiDevelopmentFeeAtomic = (feeQuote money cost fee).aiDevelopmentFeeAtomic ∧
    settlement.workerRewardAtomic = total

/-- In every group of participants with one node and one remainder, those that get a unit, the
first ones, as many as the participants ahead of the group leave, start no later than the others. -/
def ServedInOrder : Prop :=
  ∀ c ∈ participants,
    ∀ y ∈ (participants.filter (tied (servingOrder total participants) c)).take
        (unitsLeft total participants - participants.countP
          (ahead (servingOrder total participants) c)),
      ∀ x ∈ (participants.filter (tied (servingOrder total participants) c)).drop
          (unitsLeft total participants -
            participants.countP (ahead (servingOrder total participants) c)),
        startOrder RewardParticipant.layerStart RewardParticipant.nodeId y x

instance : Decidable (ServedInOrder total participants) :=
  inferInstanceAs (Decidable (∀ c ∈ participants, ∀ y ∈ List.take _ _, ∀ x ∈ List.drop _ _, _))

variable {host money moment node args settlement total participants}

/-- New payouts are written when the accounting has nothing against them, and nothing is written
otherwise. -/
theorem recordWorkerPayouts_new
    (hsettlement : node.resolveSettlement args.settlementId = some settlement)
    (hnew : receiptPayouts node args = []) : recordWorkerPayouts host money moment args node =
      if validateSettlementAccounting money settlement (newPayouts money moment node args) = [] then
        finishWorkerPayouts host money moment (some settlement) (newPayouts money moment node args)
          (storedPayouts node (newPayouts money moment node args))
      else (.error (.valueError ("Settlement payout accounting mismatch: " ++ " ".intercalate
        (validateSettlementAccounting money settlement (newPayouts money moment node args)))),
          node) := by
  have hexisting : ¬ ((node.payoutsOf args.settlementId).filter fun item =>
      item.receiptId = args.receiptId) ≠ [] := not_not.mpr hnew
  rw [recordWorkerPayouts, bind_of_ok get_apply]
  simp only [hsettlement]
  rw [if_neg hexisting]
  show (if validateSettlementAccounting money settlement (newPayouts money moment node args) ≠ []
    then _ else _ : NodeAction Unit) node = _
  by_cases hvalid :
      validateSettlementAccounting money settlement (newPayouts money moment node args) = []
  · rw [if_pos hvalid, if_neg (not_not.mpr hvalid), bind_of_ok (modify_apply _)]
    rfl
  · rw [if_neg hvalid, if_pos hvalid, bind_of_error (throw_apply _)]
    rfl

section Distributed

variable (htotal : 0 < total) (h : participants ≠ [])

include htotal h

theorem dividedExactly_distribute :
    DividedExactly total participants (distributeWorkerReward total participants) := by
  rw [distributeWorkerReward_eq htotal h]
  have hperm := perm_insertionSort (startOrder Participant.layerStart Participant.nodeId)
    (servedList total participants)
  refine ⟨(hperm.map _).trans (map_servedList_perm _ _ fun _ _ => rfl),
    ((hperm.map _).sum_eq).trans (sum_servedList h), fun item hitem => ?_⟩
  rw [← totalWeight_eq h]
  exact close_servedList h (hperm.mem_iff.mp hitem)

variable (hargs : args.participants.map Prod.snd = distributeWorkerReward total participants)

include hargs

theorem perm_distributed :
    (args.participants.map Prod.snd).Perm (servedList total participants) := by
  rw [hargs, distributeWorkerReward_eq htotal h]
  exact perm_insertionSort _ _

theorem served_distributed {entry : String × Participant} (hentry : entry ∈ args.participants) :
    ∃ (p : RewardParticipant) (extra : Bool), entry.2 = p.served total participants extra := by
  obtain ⟨p, -, hp⟩ :=
    mem_servedList ((perm_distributed htotal h hargs).mem_iff.mp (mem_map_of_mem hentry))
  exact ⟨p, hp⟩

/-- The audit agrees with the distributor exactly when the groups are served in order. -/
theorem splitMatches_distribute_iff (hreward : settlement.workerRewardAtomic = total) :
    (payoutAccount money settlement (newPayouts money moment node args)).splitMatches = true ↔
      ServedInOrder total participants := by
  have hperm := perm_distributed htotal h hargs
  have hweights : ((servedList total participants).map layerCount).Perm
      (participants.map weight) := map_servedList_perm _ _ fun _ _ => rfl
  have hsum : layerSum args.participants = totalWeight participants := by
    rw [totalWeight_eq h, ← hweights.sum_eq, ← (hperm.map _).sum_eq, map_map]
    rfl
  have hshares : ((servedList total participants).map
      (share layerCount total (totalWeight participants))).Perm
        (participants.map (share weight total (totalWeight participants))) :=
    map_servedList_perm _ _ fun _ _ => rfl
  have hunits : auditUnits total args.participants = unitsLeft total participants := by
    rw [auditUnits, unitsLeft, left, left, hsum, ← hshares.sum_eq, ← (hperm.map _).sum_eq, map_map]
    rfl
  have hne : args.participants ≠ [] := by
    intro hnil
    have hsum := (hperm.map Participant.rewardAtomic).sum_eq.trans (sum_servedList h)
    rw [hnil] at hsum
    exact htotal.ne hsum
  rw [newPayouts, splitMatches_newPayouts_iff htotal hreward hne, hsum,
    hargs.trans (distributeWorkerReward_eq htotal h),
    served_resorted_iff pairwise_servedList markedFirst_servedList, ServedInOrder,
    ← forall_take_drop_iff]
  · constructor
    · intro hall y hy x hx htie
      exact hall _ (mem_append_left _ (mem_map_of_mem hy)) _
        (mem_append_right _ (mem_map_of_mem hx)) (gotUnit_served y true)
        (gotUnit_served x false) htie
    · intro hall y hy x hx hyunit hxunit htie
      -- an item with a unit is one of the first, an item without one of the others
      obtain hy | hy := mem_append.mp hy
      · obtain ⟨p, hp, rfl⟩ := mem_map.mp hy
        obtain hx | hx := mem_append.mp hx
        · obtain ⟨q, hq, rfl⟩ := mem_map.mp hx
          exact absurd ((gotUnit_served q true).symm.trans hxunit) (by decide)
        · obtain ⟨q, hq, rfl⟩ := mem_map.mp hx
          exact hall p hp q hq htie
      · obtain ⟨p, hp, rfl⟩ := mem_map.mp hy
        exact absurd ((gotUnit_served p false).symm.trans hyunit) (by decide)
  · intro entry hentry
    obtain ⟨p, extra, hp⟩ := served_distributed htotal h hargs hentry
    rw [hp]
    exact p.weight_pos
  · intro entry hentry
    obtain ⟨p, extra, hp⟩ := served_distributed htotal h hargs hentry
    rw [hsum, hp, gotUnit_served]
    rfl
  · rw [hsum, hunits, hperm.countP_eq, countP_servedList h]

/-- The sum of the recorded amounts. -/
theorem recordedWorkerReward_distribute :
    (payoutAccount money settlement (newPayouts money moment node args)).recordedWorkerReward =
      total := by
  have hnonneg : ∀ entry ∈ args.participants, 0 ≤ entry.2.rewardAtomic := by
    intro entry hentry
    obtain ⟨p, extra, hp⟩ := served_distributed htotal h hargs hentry
    have hshare : 0 ≤ share weight total (totalWeight participants) p :=
      Int.ediv_nonneg (mul_nonneg htotal.le p.weight_pos.le) (totalWeight_pos h).le
    rw [hp]
    show 0 ≤ share weight total (totalWeight participants) p +
      if extra then 1 else 0
    split <;> omega
  have hamounts : (newPayouts money moment node args).map (fun item => max 0 item.rewardAtomic) =
      (args.participants.map Prod.snd).map Participant.rewardAtomic := by
    rw [newPayouts, map_map, map_map]
    exact map_congr_left fun entry hentry => max_eq_right (hnonneg entry hentry)
  show ((newPayouts money moment node args).map fun item => max 0 item.rewardAtomic).sum = total
  rw [hamounts, ((perm_distributed htotal h hargs).map _).sum_eq, sum_servedList h]

/-- **The accounts of a quoted settlement** are in order when the audit agrees. -/
theorem validate_distribute_iff (hrates : FeeRatesInRange money)
    (hquoted : QuotedFor money settlement total) :
    validateSettlementAccounting money settlement (newPayouts money moment node args) = [] ↔
      (payoutAccount money settlement (newPayouts money moment node args)).splitMatches = true := by
  obtain ⟨cost, fee, hcost, hcompute, hworker, hsettlement, hai, hreward⟩ := hquoted
  have hrecorded : (payoutAccount money settlement (newPayouts money moment
    node args)).recordedWorkerReward = total := recordedWorkerReward_distribute htotal h hargs
  have hshare : max (cost - (feeQuote money cost fee).settlementFeeAtomic -
      (feeQuote money cost fee).aiDevelopmentFeeAtomic) 0 = total := hworker.symm.trans hreward
  obtain ⟨hsettlementFee, haiFee, -, -⟩ := feeQuote_shares fee hrates hcost
  rw [validateSettlementAccounting_eq_nil]
  constructor
  · intro hvalid
    exact hvalid.2.1
  · intro hsplit
    refine ⟨?_, hsplit, ?_, ?_, ?_⟩
    · rw [hrecorded, hreward]
      omega
    · show (payoutAccount money settlement
        (newPayouts money moment node args)).recordedWorkerReward +
        max 0 settlement.settlementFeeAtomic + max 0 settlement.aiDevelopmentFeeAtomic = _
      rw [hrecorded, hsettlement, hai, hcompute]
      omega
    · show max 0 settlement.settlementFeeAtomic =
        max 0 settlement.computeCostAtomic * money.validatorSettlementFeeBps / 10000
      rw [hsettlement, hcompute, max_eq_right hcost, max_eq_right hsettlementFee]
      rfl
    · show max 0 settlement.aiDevelopmentFeeAtomic =
        max 0 settlement.computeCostAtomic * money.aiDevelopmentFeeBps / 10000
      rw [hai, hcompute, max_eq_right hcost, max_eq_right haiFee]
      rfl

end Distributed

/-- **When the distributor and the audit agree.**  For every positive reward, every list of
participants, and every settlement quoted for the reward that has no payouts of the receipt yet: the
amounts make up the reward, each is less than a unit away from its share, and the payouts pass the
audit and the accounting when they are recorded and when they are read back, exactly when there are
participants and tied ones are served in the order of their layers. -/
theorem rewardDivision_iff (htotal : 0 < total) (hrates : FeeRatesInRange money)
    (hquoted : QuotedFor money settlement total)
    (hsettlement : node.resolveSettlement args.settlementId = some settlement)
    (hnew : receiptPayouts node args = [])
    (hargs : args.participants.map Prod.snd = distributeWorkerReward total participants) :
    (DividedExactly total participants (distributeWorkerReward total participants) ∧
        PayoutsPass host money moment node args settlement) ↔
      participants ≠ [] ∧ ServedInOrder total participants := by
  constructor
  · rintro ⟨hdivided, hpass⟩
    have hne : participants ≠ [] := by
      rintro rfl
      have hsum := hdivided.sum
      rw [distributeWorkerReward, if_pos (.inr rfl)] at hsum
      exact htotal.ne hsum
    obtain ⟨cost, fee, hquote⟩ := hquoted
    exact ⟨hne, (splitMatches_distribute_iff htotal hne hargs hquote.2.2.2.2.2).mp hpass.split⟩
  · rintro ⟨hne, horder⟩
    have hreward : settlement.workerRewardAtomic = total := by
      obtain ⟨cost, fee, hquote⟩ := hquoted
      exact hquote.2.2.2.2.2
    have hsplit : (payoutAccount money settlement
        (newPayouts money moment node args)).splitMatches = true :=
      (splitMatches_distribute_iff htotal hne hargs hreward).mpr horder
    have hvalid := (validate_distribute_iff htotal hne hargs hrates hquoted).mpr hsplit
    refine ⟨dividedExactly_distribute htotal hne, ?_, hsplit, hvalid, ?_⟩
    · rw [recordWorkerPayouts_new hsettlement hnew, if_pos hvalid]
    · rw [receiptPayouts_storedPayouts hnew]
      exact hvalid

end Agreement

section Sample

/-- A settlement of three units for the workers. -/
def sampleRewardSettlement : SettlementRecord where
  settlementId := "s"
  createdAt := "2026-01-01T00:00:00+00:00"
  sourceWalletId := "w"
  sourceWalletAddress := "ca978112ca1bbdcafac231b39a23dc4d"
  fundingSource := "wallet"
  computeCostAtomic := 3
  txFeeAtomic := 0
  settlementFeeAtomic := 0
  workerRewardAtomic := 3
  committeeSelectionSeed := none
  committeeTargetSize := 0
  committeeSelectionMode := ""
  committeeValidatorIds := []
  committeeBondedAtomicByValidatorId := []
  committeeTotalBondedAtomic := 0
  committeeQuorumBondAtomic := 0

/-- A shard of four layers on the only node. -/
def sampleShard (start : Int) : RewardParticipant :=
  ⟨"n", none, some start, some (start + 4), some 4⟩

/-- The payouts of three units to two shards. -/
def sampleRewardArgs (shards : List RewardParticipant) : PayoutArgs where
  settlementId := "s"
  receiptId := "r"
  modelId := "m"
  participants := ["p", "q"].zip (distributeWorkerReward 3 shards)

/-- The node that records them. -/
def sampleRewardNode : Node := { settlements := [sampleRewardSettlement] }

theorem rewardDivision_iff_ordered : DividedExactly 3 [sampleShard 0, sampleShard 4]
        (distributeWorkerReward 3 [sampleShard 0, sampleShard 4]) ∧
      PayoutsPass sampleHost sampleFundingMoney sampleMoment sampleRewardNode
        (sampleRewardArgs [sampleShard 0, sampleShard 4]) sampleRewardSettlement := by
  have hquoted : QuotedFor sampleFundingMoney sampleRewardSettlement 3 :=
    ⟨3, 0, by decide, rfl, by decide +kernel, by decide +kernel, by decide +kernel, rfl⟩
  refine (rewardDivision_iff (by decide) (by decide +kernel) hquoted rfl rfl rfl).mpr
    ⟨cons_ne_nil _ _, by decide +kernel⟩

/-- The shard that is listed first gets the odd unit, the audit expects it at the shard that
starts first, and the payouts are refused. -/
theorem twoShards_refused : recordWorkerPayouts sampleHost sampleFundingMoney sampleMoment
        (sampleRewardArgs [sampleShard 4, sampleShard 0]) sampleRewardNode =
      (.error (.valueError ("Settlement payout accounting mismatch: " ++
        "Worker payout split does not match deterministic layer-share calculation.")),
        sampleRewardNode) := by
  have hvalid : validateSettlementAccounting sampleFundingMoney sampleRewardSettlement
      (newPayouts sampleFundingMoney sampleMoment sampleRewardNode
        (sampleRewardArgs [sampleShard 4, sampleShard 0])) =
      ["Worker payout split does not match deterministic layer-share calculation."] := by
    decide +kernel
  have hresolved : sampleRewardNode.resolveSettlement "s" = some sampleRewardSettlement := rfl
  rw [recordWorkerPayouts_new hresolved rfl, hvalid, if_neg nofun]
  rfl

end Sample

end CaiNetwork
