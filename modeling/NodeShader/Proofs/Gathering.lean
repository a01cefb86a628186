import NodeShader.Proofs.Querying
import Mathlib.Data.List.Sort

/-! Requirements of several nodes in one record. Channels are filed in order and once, so that a record
is known by its answers. What it answers is the union of the answers it was made of; therefore records
can be made piece by piece, and neither order nor repetition of the pieces leaves a trace. -/
namespace NodeShader

namespace UvChannel

/-- Each channel once, the lower one first. -/
def Ascending (channels : List UvChannel) : Prop :=
  channels.Pairwise fun channel later => channel.index < later.index

instance (channels : List UvChannel) : Decidable (Ascending channels) :=
  inferInstanceAs (Decidable (channels.Pairwise fun channel later => channel.index < later.index))

theorem Ascending.nodup {channels : List UvChannel} (ascending : Ascending channels) :
    channels.Nodup := by
  apply ascending.imp
  intro channel later less same
  rw [same] at less
  exact Nat.lt_irrefl _ less

theorem ascending_sorted {channels : List UvChannel} (distinct : channels.Nodup) :
    Ascending (sorted channels) := by
  refine List.pairwise_flatMap.2 ⟨fun channel _ => ?_, ?_⟩
  · -- Of one channel there is one copy at most.
    refine (distinct.filter _).imp_of_mem fun here there apart => absurd ?_ apart
    rw [List.mem_filter] at here there
    exact (of_decide_eq_true here.2).trans (of_decide_eq_true there.2).symm
  · have apart : all.Pairwise fun channel later => channel.index < later.index := by decide
    refine apart.imp fun less first here second there => ?_
    rw [List.mem_filter] at here there
    rwa [of_decide_eq_true here.2, of_decide_eq_true there.2]

theorem Ascending.eq {channels others : List UvChannel} (first : Ascending channels)
    (second : Ascending others) (same : ∀ channel, channel ∈ channels ↔ channel ∈ others) :
    channels = others := by
  have irreflexive : Std.Irrefl fun channel later : UvChannel => channel.index < later.index :=
    ⟨fun _ => Nat.lt_irrefl _⟩
  have antisymmetric : Std.Antisymm fun channel later : UvChannel => channel.index < later.index :=
    ⟨fun _ _ less more => absurd (Nat.lt_trans less more) (Nat.lt_irrefl _)⟩
  exact List.Pairwise.eq_of_mem_iff first second same

end UvChannel

namespace Requirements

theorem ascending_record {needs : Requirements} (ascending : UvChannel.Ascending needs.meshUv)
    (capability : Capability) (answer : Requirement) :
    UvChannel.Ascending (needs.record capability answer).meshUv := by
  cases capability with
  | meshUv channel =>
    by_cases added : (answer.asFlag && !needs.meshUv.contains channel) = true
    · simp only [record, if_pos added]
      apply UvChannel.ascending_sorted
      have fresh : channel ∉ needs.meshUv := by simpa using (Bool.and_eq_true_iff.1 added).2
      exact ascending.nodup.append (List.nodup_singleton channel) (by simpa using fresh)
    · simp only [record, if_neg added]
      exact ascending
  | _ => exact ascending

theorem ascending_recordAll {needs : Requirements} (ascending : UvChannel.Ascending needs.meshUv)
    (answer : Capability → Requirement) : UvChannel.Ascending (needs.recordAll answer).meshUv := by
  rw [recordAll]
  induction Capability.all generalizing needs with
  | nil => exact ascending
  | cons capability rest ih => exact ih (ascending_record ascending capability (answer capability))

theorem ascending_ofList (records : List Requirements) :
    UvChannel.Ascending (ofList records).meshUv := by
  have nothing : UvChannel.Ascending none.meshUv := List.Pairwise.nil
  exact ascending_recordAll nothing (combined records)

/-- A record whose channels are in order is known by its answers. -/
theorem eq_of_query {needs others : Requirements} (first : UvChannel.Ascending needs.meshUv)
    (second : UvChannel.Ascending others.meshUv)
    (same : ∀ capability, needs.query capability = others.query capability) : needs = others := by
  have channels : needs.meshUv = others.meshUv := by
    apply first.eq second
    intro channel
    simpa [query] using same (.meshUv channel)
  cases needs
  cases others
  rw [Requirements.mk.injEq]
  exact ⟨Requirement.spaces.inj (same .normal), Requirement.spaces.inj (same .tangent),
    Requirement.spaces.inj (same .bitangent), Requirement.spaces.inj (same .position),
    Requirement.spaces.inj (same .viewDirection), channels, Requirement.flag.inj (same .screenPosition),
    Requirement.flag.inj (same .time), Requirement.flag.inj (same .vertexColor)⟩

theorem gathers_ofList (records : List Requirements) (capability : Capability) :
    ((ofList records).query capability).Gathers capability (· ∈ records) := by
  refine ⟨isMask_query _ capability, fun place => ?_⟩
  rw [asks_query_ofList, List.any_eq_true]

theorem query_ofList (records : List Requirements) (capability : Capability) :
    (ofList records).query capability = combined records capability :=
  (gathers_ofList records capability).eq (gathers_combined records capability)

theorem ofList_congr {records others : List Requirements}
    (same : ∀ needs, needs ∈ records ↔ needs ∈ others) : ofList records = ofList others := by
  apply eq_of_query (ascending_ofList records) (ascending_ofList others)
  intro capability
  have first := gathers_ofList records capability
  simp only [same] at first
  exact first.eq (gathers_ofList others capability)

theorem ofList_append (records others : List Requirements) :
    ofList (records ++ others) = (ofList records).union (ofList others) := by
  apply eq_of_query (ascending_ofList _) (ascending_recordAll (ascending_ofList records) _)
  intro capability
  apply Requirement.eq_of_asks
  · rw [isMask_query, isMask_query]
  · intro place
    rw [asks_query_recordAll _ (isMask_query (ofList others)), asks_query_ofList, asks_query_ofList,
      asks_query_ofList, List.any_append]

/-- Nothing that was asked for is lost among more records. -/
theorem query_ofList_absorbs {records others : List Requirements} (fewer : records ⊆ others)
    (capability : Capability) :
    ((ofList others).query capability).combine ((ofList records).query capability) =
      (ofList others).query capability := by
  have alike : ((ofList others).query capability).isMask = ((ofList records).query capability).isMask :=
    (isMask_query _ capability).trans (isMask_query _ capability).symm
  apply Requirement.eq_of_asks (Requirement.isMask_combine _ _)
  intro place
  rw [Requirement.asks_combine alike, asks_query_ofList, asks_query_ofList, Bool.or_eq_left_iff_imp,
    List.any_eq_true, List.any_eq_true]
  exact fun ⟨needs, member, asks⟩ => ⟨needs, fewer member, asks⟩

/-- A record of several is the union of the records of its parts, and the same for all lists with the
same members. Each answer folds theirs: it asks for what one of them asks for, and for no less when more
are added. -/
theorem records_gathered (records : List Requirements) :
    (∀ others, ofList (records ++ others) = (ofList records).union (ofList others)) ∧
      (∀ others, (∀ needs, needs ∈ others ↔ needs ∈ records) → ofList others = ofList records) ∧
      (∀ capability, (ofList records).query capability = combined records capability ∧
        ((ofList records).query capability).Gathers capability (· ∈ records)) ∧
      (∀ others, records ⊆ others → ∀ capability,
        ((ofList others).query capability).combine ((ofList records).query capability) =
          (ofList others).query capability) ∧
      UvChannel.Ascending (ofList records).meshUv := by
  refine ⟨ofList_append records, fun _ same => ofList_congr same, fun capability => ?_,
    fun _ fewer capability => query_ofList_absorbs fewer capability, ascending_ofList records⟩
  exact ⟨query_ofList records capability, gathers_ofList records capability⟩

/-- Channels out of order and twice, and a mask with places that no space has. -/
def scattered : Requirements :=
  { none with normal := ⟨0xF1⟩, meshUv := [.uv3, .uv0, .uv3], time := true }

theorem scattered_gathered :
    let other : Requirements := { none with normal := .world, meshUv := [.uv1, .uv0] }
    let gathered : Requirements :=
      { none with normal := ⟨0xF5⟩, meshUv := [.uv0, .uv1, .uv3], time := true }
    let repeated := [other, scattered, other]
    ofList [scattered, other] = gathered ∧ ofList repeated = gathered ∧
      ofList ([scattered, other] ++ repeated) = gathered.union gathered ∧
      (∀ capability,
        (gathered.query capability).Gathers capability (· ∈ [scattered, other]) ∧
        ((ofList (none :: repeated)).query capability).combine (gathered.query capability) =
          (ofList (none :: repeated)).query capability) ∧
      UvChannel.Ascending gathered.meshUv := by
  intro other gathered repeated
  obtain ⟨append, same, asked, grows, ascending⟩ := records_gathered [scattered, other]
  have record : ofList [scattered, other] = gathered := by decide
  have again : ofList repeated = gathered := (same repeated (by simp [repeated, or_comm])).trans record
  have joined := append repeated
  rw [record] at asked grows ascending joined
  rw [again] at joined
  refine ⟨record, again, joined, fun capability => ⟨(asked capability).2, ?_⟩, ascending⟩
  exact grows (none :: repeated) (by simp [repeated]) capability

end Requirements
end NodeShader
