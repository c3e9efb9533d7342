import HeaderOutline.Proofs.Emission

/-! What a sink with limited room takes of a report. It takes the beginning of the report, up to the limit,
and the emitter's next depth follows from the line that the limit falls into. -/
namespace HeaderOutline

def reportBytes (lines : List Line) : List UInt8 := Text.utf8 (String.join (lines.map Line.text))

theorem reportBytesNil : reportBytes [] = [] := rfl

theorem reportBytesCons (line : Line) (rest : List Line) :
    reportBytes (line :: rest) = line.bytes ++ reportBytes rest := by
  rw [reportBytes, List.map_cons, String.join_cons, Text.utf8Append]
  rfl

theorem reportBytesAppend (xs ys : List Line) :
    reportBytes (xs ++ ys) = reportBytes xs ++ reportBytes ys := by
  induction xs with
  | nil => rfl
  | cons line rest ih => rw [List.cons_append, reportBytesCons, ih, reportBytesCons, List.append_assoc]

def Outline.deeperLines (depth : Nat) (u : Outline) : List Line := (u.lines 0).map (Line.deeper depth)

section Deeper
variable (depth more : Nat)

theorem constantDeeper (c : EnumConstant) : (c.lines depth).map (Line.deeper more) = c.lines (depth + more) := by
  simp [EnumConstant.lines, Line.deeper, Nat.add_right_comm]

theorem parameterDeeper (p : Parameter) : (p.lines depth).map (Line.deeper more) = p.lines (depth + more) := by
  obtain ⟨name, typeSpelling, default⟩ := p
  cases default <;> simp [Parameter.lines, Line.deeper, Nat.add_right_comm]

theorem signatureDeeper (s : Signature) : (s.lines depth).map (Line.deeper more) = s.lines (depth + more) := by
  simp [Signature.lines, Line.deeper, List.map_flatMap, parameterDeeper]

theorem valueTypeDeeper (t : ValueType) : (t.lines depth).map (Line.deeper more) = t.lines (depth + more) := by
  simp [ValueType.lines, Line.deeper]

end Deeper

mutual
theorem declarationDeeper (depth more : Nat) : (d : Declaration) →
    (d.lines depth).map (Line.deeper more) = d.lines (depth + more)
  | .ns name children => by
      have inner := declarationsDeeper (depth + 1) more children
      rw [Nat.add_right_comm] at inner
      simp only [Declaration.lines, List.map_cons, inner]
      rfl
  | .record key head members => by
      have inner := declarationsDeeper (depth + 1) more members
      rw [Nat.add_right_comm] at inner
      simp only [Declaration.lines, List.map_cons, List.map_append, List.map_map, inner]
      simp [Line.deeper, Function.comp_def, Nat.add_right_comm]
  | .enum e => by
      simp [Declaration.lines, Line.deeper, List.map_flatMap, constantDeeper, Nat.add_right_comm]
  | .func name s => by simp [Declaration.lines, Line.deeper, signatureDeeper, Nat.add_right_comm]
  | .var name type => by simp [Declaration.lines, Line.deeper, valueTypeDeeper, Nat.add_right_comm]
  | .field name access type => by
      simp [Declaration.lines, Line.deeper, valueTypeDeeper, Nat.add_right_comm]
  | .method name access s => by
      simp [Declaration.lines, Line.deeper, signatureDeeper, Nat.add_right_comm]

theorem declarationsDeeper (depth more : Nat) : (ds : List Declaration) →
    (Declaration.linesAll depth ds).map (Line.deeper more) = Declaration.linesAll (depth + more) ds
  | [] => rfl
  | d :: rest => by
      rw [Declaration.linesAll, Declaration.linesAll, List.map_append, declarationDeeper depth more d,
        declarationsDeeper depth more rest]
end

theorem outlineDeeper (depth : Nat) (u : Outline) : u.lines depth = u.deeperLines depth := by
  have inner := declarationsDeeper 0 depth u.declarations
  rw [Nat.zero_add] at inner
  simp [Outline.lines, Outline.deeperLines, Line.deeper, inner]

namespace Emission

theorem followUnlimited (depth : Nat) (lines : List Line) (written : List UInt8) :
    follow depth lines ⟨none, written⟩ = .ok () ⟨depth, ⟨none, written ++ reportBytes lines⟩⟩ := by
  induction lines generalizing written with
  | nil => rw [follow, reportBytesNil, List.append_nil]
  | cons line rest ih =>
      have accepted : (⟨none, written⟩ : Sink).accepts line.bytes = line.bytes := rfl
      have put : (⟨none, written⟩ : Sink).put line.bytes = ⟨none, written ++ line.bytes⟩ := rfl
      rw [follow, accepted, if_neg (Nat.lt_irrefl _), put, ih, reportBytesCons, List.append_assoc]

theorem putWhole {room : Nat} {bytes : List UInt8} (fits : bytes.length ≤ room) (written : List UInt8) :
    (⟨some room, written⟩ : Sink).accepts bytes = bytes ∧
      (⟨some room, written⟩ : Sink).put bytes = ⟨some (room - bytes.length), written ++ bytes⟩ := by
  have accepted : (⟨some room, written⟩ : Sink).accepts bytes = bytes := List.take_of_length_le fits
  exact ⟨accepted, by simp [Sink.put, accepted]⟩

theorem putCut {room : Nat} {bytes : List UInt8} (short : room < bytes.length) (written : List UInt8) :
    (⟨some room, written⟩ : Sink).accepts bytes = bytes.take room ∧
      (⟨some room, written⟩ : Sink).put bytes = ⟨some 0, written ++ bytes.take room⟩ := by
  have full : room - min room bytes.length = 0 := by omega
  exact ⟨rfl, by simp [Sink.put, Sink.accepts, full]⟩

theorem followFits (depth : Nat) {room : Nat} {lines : List Line}
    (fits : (reportBytes lines).length ≤ room) (written : List UInt8) :
    ∃ left, follow depth lines ⟨some room, written⟩ =
      .ok () ⟨depth, ⟨some left, written ++ reportBytes lines⟩⟩ := by
  induction lines generalizing room written with
  | nil => exact ⟨room, by rw [follow, reportBytesNil, List.append_nil]⟩
  | cons line rest ih =>
      rw [reportBytesCons, List.length_append] at fits
      obtain ⟨accepted, put⟩ := putWhole (Nat.le_trans (Nat.le_add_right _ _) fits) written
      obtain ⟨left, later⟩ := ih (Nat.le_sub_of_add_le' fits) (written ++ line.bytes)
      refine ⟨left, ?_⟩
      rw [follow, accepted, if_neg (Nat.lt_irrefl _), put, later, reportBytesCons, List.append_assoc]

end Emission

def HoldsByte (lines : List Line) (offset : Nat) (line : Line) : Prop :=
  ∃ before after, lines = before ++ line :: after ∧
    (reportBytes before).length ≤ offset ∧ offset < (reportBytes (before ++ [line])).length

theorem holdsByteLater {line cut : Line} {rest : List Line} {offset : Nat}
    (held : HoldsByte rest offset cut) : HoldsByte (line :: rest) (line.bytes.length + offset) cut := by
  obtain ⟨before, after, split, starts, ends⟩ := held
  refine ⟨line :: before, after, by rw [split]; rfl, ?_, ?_⟩
  · rw [reportBytesCons, List.length_append]
    omega
  · rw [List.cons_append, reportBytesCons, List.length_append]
    omega

theorem noLaterStart {before more : List Line} {line : Line} {offset : Nat}
    (ends : offset < (reportBytes (before ++ [line])).length) :
    ¬ (reportBytes (before ++ line :: more)).length ≤ offset := by
  have split : before ++ line :: more = (before ++ [line]) ++ more := by simp
  rw [split, reportBytesAppend, List.length_append]
  omega

theorem holdsByteUnique {lines : List Line} {offset : Nat} {a b : Line} (first : HoldsByte lines offset a)
    (second : HoldsByte lines offset b) : a = b := by
  obtain ⟨before, after, split, starts, ends⟩ := first
  obtain ⟨other, rest, splitToo, startsToo, endsToo⟩ := second
  rcases List.append_eq_append_iff.mp (split.symm.trans splitToo) with
    ⟨between, rfl, later⟩ | ⟨between, rfl, later⟩
  · cases between with
    | nil => exact (List.cons.inj later).1
    | cons line more =>
        cases (List.cons.inj later).1
        exact absurd startsToo (noLaterStart ends)
  · cases between with
    | nil => exact (List.cons.inj later).1.symm
    | cons line more =>
        cases (List.cons.inj later).1
        exact absurd starts (noLaterStart endsToo)

namespace Emission

theorem followCut (depth : Nat) {room : Nat} {lines : List Line}
    (short : room < (reportBytes lines).length) (written : List UInt8) : ∃ line, HoldsByte lines room line ∧
      follow depth lines ⟨some room, written⟩ =
        .error .writeZero ⟨line.depth, ⟨some 0, written ++ (reportBytes lines).take room⟩⟩ := by
  induction lines generalizing room written with
  | nil => exact absurd short (Nat.not_lt_zero room)
  | cons line rest ih =>
      rw [reportBytesCons, List.length_append] at short
      by_cases fits : line.bytes.length ≤ room
      · obtain ⟨accepted, put⟩ := putWhole fits written
        have shortLater : room - line.bytes.length < (reportBytes rest).length := by omega
        obtain ⟨cut, held, run⟩ := ih shortLater (written ++ line.bytes)
        refine ⟨cut, ?_, ?_⟩
        · have later : HoldsByte (line :: rest) _ cut := holdsByteLater held
          rwa [Nat.add_sub_cancel' fits] at later
        · rw [follow, accepted, if_neg (Nat.lt_irrefl _), put, run, reportBytesCons, List.append_assoc,
            List.take_append, List.take_of_length_le fits]
      · have shortHere : room < line.bytes.length := Nat.lt_of_not_le fits
        obtain ⟨accepted, put⟩ := putCut shortHere written
        have length : (line.bytes.take room).length < line.bytes.length := by
          rwa [List.length_take_of_le (Nat.le_of_lt shortHere)]
        have single : reportBytes [line] = line.bytes := by
          rw [reportBytesCons]
          exact List.append_nil line.bytes
        refine ⟨line, ⟨[], rest, rfl, Nat.zero_le room, ?_⟩, ?_⟩
        · rwa [List.nil_append, single]
        · rw [follow, accepted, if_pos length, put, reportBytesCons,
            List.take_append_of_le_length (Nat.le_of_lt shortHere)]

end Emission

def taken (room : Option Nat) (size : Nat) : Nat :=
  match room with
  | none => size
  | some limit => min limit size

structure Delivered (depth : Nat) (room : Option Nat) (u : Outline) (delivery : Delivery) (after : Nat) :
    Prop where
  accepted : delivery.accepted = (reportBytes (u.deeperLines depth)).take
    (taken room (reportBytes (u.deeperLines depth)).length)
  failed : delivery.failure = some .writeZero ↔
    ∃ limit, room = some limit ∧ limit < (reportBytes (u.deeperLines depth)).length
  kept : delivery.failure = none → after = depth
  leaked : ∀ limit, room = some limit → delivery.failure = some .writeZero →
    ∃ line, HoldsByte (u.deeperLines depth) limit line ∧ after = line.depth

inductive DeliveredAll : Nat → List (Outline × Option Nat) → List Delivery → Prop where
  | nil (depth) : DeliveredAll depth [] []
  | cons {depth after room u delivery others deliveries} (first : Delivered depth room u delivery after)
      (later : DeliveredAll after others deliveries) :
      DeliveredAll depth ((u, room) :: others) (delivery :: deliveries)

theorem delivered (depth : Nat) (room : Option Nat) (u : Outline) :
    Delivered depth room u (deliver depth room u).1 (deliver depth room u).2 := by
  have run := Emission.writesOutline depth u ⟨room, []⟩
  rw [outlineDeeper] at run
  cases room with
  | none =>
      rw [Emission.followUnlimited] at run
      simp only [deliver, run]
      exact ⟨List.take_length.symm, by simp, fun _ => rfl, nofun⟩
  | some limit =>
      by_cases fits : (reportBytes (u.deeperLines depth)).length ≤ limit
      · obtain ⟨left, whole⟩ := Emission.followFits depth fits []
        rw [whole] at run
        simp only [deliver, run]
        refine ⟨?_, by simpa using fits, fun _ => rfl, nofun⟩
        rw [taken, Nat.min_eq_right fits, List.take_length, List.nil_append]
      · have short := Nat.lt_of_not_le fits
        obtain ⟨line, held, cut⟩ := Emission.followCut depth short []
        rw [cut] at run
        simp only [deliver, run]
        refine ⟨?_, by simpa using short, nofun, ?_⟩
        · rw [taken, Nat.min_eq_left (Nat.le_of_lt short), List.nil_append]
        · rintro _ ⟨⟩ _
          exact ⟨line, held, rfl⟩

theorem deliveredUnique {depth after other : Nat} {room : Option Nat} {u : Outline} {d e : Delivery}
    (first : Delivered depth room u d after) (second : Delivered depth room u e other) :
    d = e ∧ after = other := by
  have failures := first.failed.trans second.failed.symm
  have accepted := first.accepted.trans second.accepted.symm
  obtain ⟨dAccepted, dFailure⟩ := d
  obtain ⟨eAccepted, eFailure⟩ := e
  cases accepted
  rcases dFailure with _ | ⟨⟩
  · rcases eFailure with _ | ⟨⟩
    · exact ⟨rfl, (first.kept rfl).trans (second.kept rfl).symm⟩
    · exact absurd (failures.mpr rfl) nofun
  · cases failures.mp rfl
    obtain ⟨limit, limited, _⟩ := first.failed.mp rfl
    obtain ⟨line, held, rfl⟩ := first.leaked limit limited rfl
    obtain ⟨same, heldToo, rfl⟩ := second.leaked limit limited rfl
    exact ⟨rfl, congrArg Line.depth (holdsByteUnique held heldToo)⟩

theorem deliveredAll (depth : Nat) (requests : List (Outline × Option Nat)) :
    DeliveredAll depth requests (deliverAll depth requests) := by
  induction requests generalizing depth with
  | nil => exact .nil depth
  | cons request rest ih => exact .cons (delivered depth request.2 request.1) (ih _)

theorem deliveredAllUnique {depth : Nat} {requests : List (Outline × Option Nat)}
    {deliveries : List Delivery} (law : DeliveredAll depth requests deliveries) :
    deliverAll depth requests = deliveries := by
  induction law with
  | nil => rfl
  | @cons depth after room u delivery others deliveries first later ih =>
      obtain ⟨same, depths⟩ := deliveredUnique (delivered depth room u) first
      show (deliver depth room u).1 :: deliverAll (deliver depth room u).2 others = _
      rw [same, depths, ih]

theorem unlimitedReport (u : Outline) : deliver 0 none u = (⟨Text.utf8 u.render, none⟩, 0) := by
  have run := Emission.writesOutline 0 u ⟨none, []⟩
  rw [Emission.followUnlimited] at run
  rw [deliver, run]
  rfl

theorem unlimitedReports (us : List Outline) :
    (deliverAll 0 (us.map (·, none))).flatMap Delivery.accepted =
      Text.utf8 (String.join (us.map Outline.render)) := by
  induction us with
  | nil => rfl
  | cons u rest ih =>
      rw [List.map_cons, List.map_cons, deliverAll, unlimitedReport, List.flatMap_cons, ih, String.join_cons,
        Text.utf8Append]

theorem limitedEmission :
    (∀ requests deliveries, deliverAll 0 requests = deliveries ↔ DeliveredAll 0 requests deliveries) ∧
    (∀ outlines : List Outline, (deliverAll 0 (outlines.map (·, none))).flatMap Delivery.accepted =
      Text.utf8 (String.join (outlines.map Outline.render))) := by
  refine ⟨fun requests deliveries => ⟨?_, deliveredAllUnique⟩, unlimitedReports⟩
  rintro rfl
  exact deliveredAll 0 requests

end HeaderOutline
