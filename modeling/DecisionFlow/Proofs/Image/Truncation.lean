import DecisionFlow.Proofs.Image.RoundTrip

/-!
# Truncated images are refused

Every decoder persists: what it reads, it reads as well when more bytes follow
(`decode_append_of_decode`). So if the front of an image were read as a graph, then the whole image
would be read as the same graph, with the bytes that were cut off left over. But an image is read to
its end (`Reads.run_front_eq_none`).
-/

set_option autoImplicit false

namespace DecisionFlow.Image

variable {α : Type}

/-- A longer input allows for more levels. -/
theorem persists_of_within {decodeWithin : Nat → Decoder α}
    (within : ∀ levels more, levels ≤ more → Persists (decodeWithin levels) (decodeWithin more)) :
    Persists (do decodeWithin (← get).length) (do decodeWithin (← get).length) := by
  intro bytes value rest read more
  have longer : bytes.length ≤ (bytes ++ more).length :=
    List.length_append ▸ Nat.le_add_right _ _
  exact within _ _ longer bytes value rest read more

/-! ## Values, expressions and tables -/

theorem persists_value : Persists decodeValue decodeValue := by
  refine persists_shortNat.bind fun tag => ?_
  split
  · exact persists_double.last _
  · exact persists_text.last _
  · exact persists_bool.last _
  · exact .pure _
  · exact .failure

theorem persists_reference : Persists decodeReference decodeReference := by
  refine persists_shortNat.bind fun tag => ?_
  split
  · exact persists_text.last _
  · exact persists_text.last _
  · exact .failure

theorem persists_expressionWithin {levels more : Nat} (enough : levels ≤ more) :
    Persists (decodeExpressionWithin levels) (decodeExpressionWithin more) := by
  induction levels generalizing more with
  | zero => exact .failure
  | succ levels ih =>
      obtain ⟨more, rfl⟩ := Nat.exists_eq_add_one.2 (Nat.lt_of_lt_of_le (Nat.succ_pos _) enough)
      have operand := ih (Nat.le_of_succ_le_succ enough)
      refine persists_shortNat.bind fun tag => ?_
      split
      · exact operand.bind fun left => operand.last _
      · split
        · exact operand.last _
        · exact persists_value.last _
        · exact persists_reference
        · exact .failure

theorem persists_expression : Persists decodeExpression decodeExpression :=
  persists_of_within fun _ _ => persists_expressionWithin

theorem persists_named : Persists decodeNamed decodeNamed :=
  persists_list (persists_pair persists_text persists_expression)

theorem persists_cell : Persists decodeCell decodeCell := by
  refine persists_shortNat.bind fun tag => ?_
  split
  · exact persists_value.last _
  · exact .pure _
  · exact .failure

theorem persists_table : Persists decodeTable decodeTable :=
  (persists_list persists_text).bind fun _ => (persists_list (persists_list persists_cell)).last _

/-! ## Nodes and edges -/

theorem persists_request : Persists decodeRequest decodeRequest := by
  refine persists_shortNat.bind fun tag => ?_
  split
  · exact persists_text.last _
  · exact .pure _
  · exact .failure

theorem persists_transform : Persists decodeTransform decodeTransform := by
  refine persists_shortNat.bind fun tag => ?_
  split
  · exact .pure _
  · exact .pure _
  · exact .pure _
  · exact .failure

theorem persists_lookup : Persists decodeLookup decodeLookup :=
  persists_named.bind fun _ => persists_text.bind fun _ =>
    (persists_list persists_text).bind fun _ => persists_table.last _

theorem persists_output : Persists decodeOutput decodeOutput :=
  persists_expression.bind fun _ => (persists_option persists_expression).bind fun _ =>
    persists_named.last _

theorem persists_label : Persists decodeLabel decodeLabel := by
  refine persists_shortNat.bind fun tag => ?_
  split
  · exact .pure _
  · exact .pure _
  · exact .pure _
  · exact .failure

theorem persists_edge : Persists decodeEdge decodeEdge :=
  persists_text.bind fun _ => persists_label.bind fun _ => persists_text.last _

theorem persists_successors : Persists decodeSuccessors decodeSuccessors :=
  (persists_option persists_nat).bind fun _ => (persists_option persists_nat).bind fun _ =>
    (persists_option persists_nat).last _

theorem persists_index : Persists decodeIndex decodeIndex :=
  (persists_list (persists_pair persists_text persists_nat)).last _

section

variable {callee : Type} {decodeCallee decodeOther : Decoder callee}

theorem persists_call (target : Persists decodeCallee decodeOther) :
    Persists (decodeCall decodeCallee) (decodeCall decodeOther) :=
  persists_text.bind fun _ => persists_request.bind fun _ => persists_named.bind fun _ =>
    target.last _

theorem persists_kind (target : Persists decodeCallee decodeOther) :
    Persists (decodeKind decodeCallee) (decodeKind decodeOther) := by
  refine persists_shortNat.bind fun tag => ?_
  split
  · exact .pure _
  · exact persists_text.last _
  · exact persists_expression.last _
  · exact persists_expression.bind fun _ => (persists_option persists_int).last _
  · exact persists_transform.bind fun _ => persists_expression.last _
  · exact persists_lookup.last _
  · exact (persists_call target).last _
  · exact persists_output.last _
  · exact .failure

theorem persists_node (target : Persists decodeCallee decodeOther) :
    Persists (decodeNode decodeCallee) (decodeNode decodeOther) :=
  persists_text.bind fun _ => (persists_kind target).last _

end

/-! ## Graphs and images -/

theorem persists_graphWithin {levels more : Nat} (enough : levels ≤ more) :
    Persists (decodeGraphWithin levels) (decodeGraphWithin more) := by
  induction levels generalizing more with
  | zero => exact .failure
  | succ levels ih =>
      obtain ⟨more, rfl⟩ := Nat.exists_eq_add_one.2 (Nat.lt_of_lt_of_le (Nat.succ_pos _) enough)
      have target := ih (Nat.le_of_succ_le_succ enough)
      exact persists_text.bind fun _ => persists_text.bind fun _ =>
        (persists_list (persists_node target)).bind fun _ =>
          (persists_list persists_edge).bind fun _ => persists_index.bind fun _ =>
            (persists_list persists_successors).bind fun _ => persists_nat.last _

theorem persists_graph : Persists decodeGraph decodeGraph :=
  persists_of_within fun _ _ => persists_graphWithin

theorem persists_image : Persists decodeImage decodeImage :=
  persists_pair persists_shortNat persists_graph

variable {graph : Graph} {bytes front back : Bytes}

/-- Bytes that are read as a graph are read as the same graph when more follow, whether they are the
image of a graph or not. -/
theorem decode_append_of_decode (loads : decode bytes = .ok graph) (more : Bytes) :
    decode (bytes ++ more) = .ok graph := by
  unfold decode at loads
  split at loads
  · cases loads
  · next format found rest read =>
      rw [decode, persists_image _ _ _ read more]
      exact loads

/-- What reads some bytes to their end reads no part of them that is cut short. -/
theorem Reads.run_front_eq_none {decode : Decoder α} {value : α} (persists : Persists decode decode)
    (reads : Reads decode (front ++ back) value) (isCut : back ≠ []) : decode.run front = none := by
  have whole : decode.run (front ++ back) = some (value, []) := by
    have read := reads []
    rwa [List.append_nil] at read
  cases read : decode.run front with
  | none => rfl
  | some result =>
      -- The whole would be read with the part that was cut off left over.
      have longer := persists _ _ _ read back
      rw [whole, Option.some.injEq, Prod.mk.injEq] at longer
      exact absurd (List.append_eq_nil_iff.1 longer.2.symm).2 isCut

/-- **Images are read whole or not at all.** The front of an image, cut anywhere before its end, is
not read as any graph; with nothing cut off, it is read as its own. -/
theorem decode_front_of_image (fits : GraphFits graph) (isImage : IsImage graph (front ++ back)) :
    (back ≠ [] → decode front = .error .malformed) ∧
      (back = [] → ∃ loaded, decode front = .ok loaded ∧ graph.Alike loaded) := by
  obtain ⟨stored, alike, reads⟩ := isImage.reads fits
  constructor
  · intro isCut
    rw [decode, reads.run_front_eq_none persists_image isCut]
  · rintro rfl
    have read := decode_of_reads reads []
    rw [List.append_nil, List.append_nil] at read
    exact ⟨stored, read, alike⟩

/-- An image is read, and without its last byte it is not. -/
theorem decode_front_of_callingFlow :
    let image := encode (callingFlow longIndexReversed shortIndexReversed)
    GraphFits (callingFlow longIndex shortIndex) ∧
      (∃ last, IsImage (callingFlow longIndex shortIndex) (image.dropLast ++ [last]) ∧
        decode image.dropLast = .error .malformed) ∧
      IsImage (callingFlow longIndex shortIndex) (image ++ []) ∧
        ∃ loaded, decode image = .ok loaded ∧ (callingFlow longIndex shortIndex).Alike loaded := by
  intro image
  have nonempty : image ≠ [] :=
    List.append_ne_nil_of_left_ne_nil (List.length_pos_iff.1 (length_encodeNat_pos _)) _
  have isImage : IsImage (callingFlow longIndex shortIndex)
      (image.dropLast ++ [image.getLast nonempty]) := by
    rw [List.dropLast_append_getLast]
    exact isImage_callingFlow
  have isWhole : IsImage (callingFlow longIndex shortIndex) (image ++ []) := by
    rw [List.append_nil]
    exact isImage_callingFlow
  exact ⟨graphFits_callingFlow,
    ⟨_, isImage, (decode_front_of_image graphFits_callingFlow isImage).1 (List.cons_ne_nil _ _)⟩,
    isWhole, (decode_front_of_image graphFits_callingFlow isWhole).2 rfl⟩

end DecisionFlow.Image
