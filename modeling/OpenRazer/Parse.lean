import OpenRazer.Errors

namespace OpenRazer

def checkDataSize (report : RazerReport) : Except ProtoError Unit :=
  if report.dataSize.toNat > 80 then .error (.dataSizeTooLarge report.dataSize) else .ok ()

/-- Reject a report that must not be put on the wire: the source looks at
three fields, and at no other. -/
def checkRequest (request : RazerReport) : Except ProtoError Unit := do
  checkDataSize request
  if request.protocolType ≠ 0x00 then
    .error (.malformed "protocol_type must be 0x00 on an outbound report")
  else if request.reserved ≠ 0x00 then
    .error (.malformed "reserved must be 0x00 on an outbound report")
  else
    .ok ()

/-- Validate a response against the request that produced it. -/
def checkResponse (request response : RazerReport) : Except ProtoError Unit := do
  checkDataSize request
  checkDataSize response
  if response.remainingPackets ≠ request.remainingPackets then
    .error (.responseMismatch "remaining_packets" request.remainingPackets.toUInt32 response.remainingPackets.toUInt32)
  else if response.commandClass ≠ request.commandClass then
    .error (.responseMismatch "command_class" request.commandClass.toUInt32 response.commandClass.toUInt32)
  else if response.commandId ≠ request.commandId then
    .error (.responseMismatch "command_id" request.commandId.toUInt32 response.commandId.toUInt32)
  else if response.status.isOk then
    .ok ()
  else
    .error (.deviceStatus response.status)

namespace Parse

/-- `char::is_whitespace` on the ASCII range. -/
def isWhitespace (c : Char) : Bool :=
  c.toNat == 0x20 || (0x09 ≤ c.toNat && c.toNat ≤ 0x0D)

def trimEnd (text : List Char) : List Char :=
  (text.reverse.dropWhile isWhitespace).reverse

/-- The ASCII serial in the first 22 payload bytes, cut at the first NUL. -/
def serial (response : RazerReport) : Except ProtoError String :=
  let raw := response.arguments.toList.take 22
  let stop := (raw.findIdx? (· == 0x00)).getD raw.length
  let trimmed := raw.take stop
  if trimmed.all (·.toNat < 0x80) then
    .ok (String.ofList (trimEnd (trimmed.map fun b => Char.ofNat b.toNat)))
  else
    .error (.malformed "serial is not ASCII")

def firmwareVersion (response : RazerReport) : Except ProtoError (UInt8 × UInt8) :=
  .ok (response.arguments[0], response.arguments[1])

def deviceMode (response : RazerReport) : Except ProtoError (UInt8 × UInt8) :=
  .ok (response.arguments[0], response.arguments[1])

def brightness (response : RazerReport) : Except ProtoError UInt8 :=
  .ok response.arguments[2]

def pollRateLegacy (response : RazerReport) : Except ProtoError PollRate :=
  match PollRate.fromLegacyCode response.arguments[0] with
  | some rate => .ok rate
  | none => .error (.malformed "unknown legacy poll rate code")

def pollRateV2 (response : RazerReport) : Except ProtoError PollRate :=
  match PollRate.fromV2Code response.arguments[1] with
  | some rate => .ok rate
  | none => .error (.malformed "unknown v2 poll rate code")

end Parse

/-- The routing fields a response has to echo. -/
def RoutesTo (request response : RazerReport) : Prop :=
  response.remainingPackets = request.remainingPackets ∧ response.commandClass = request.commandClass ∧
    response.commandId = request.commandId

instance (request response : RazerReport) : Decidable (RoutesTo request response) := by
  unfold RoutesTo
  infer_instance

theorem checkDataSize_cases (report : RazerReport) :
    report.dataSize.toNat ≤ 80 ∧ checkDataSize report = .ok () ∨
      80 < report.dataSize.toNat ∧ checkDataSize report = .error (.dataSizeTooLarge report.dataSize) := by
  unfold checkDataSize
  split
  · exact Or.inr ⟨by omega, rfl⟩
  · exact Or.inl ⟨by omega, rfl⟩

theorem checkRequest_ok_iff {request : RazerReport} : checkRequest request = .ok () ↔
    request.dataSize.toNat ≤ 80 ∧ request.protocolType = 0 ∧ request.reserved = 0 := by
  unfold checkRequest
  rcases checkDataSize_cases request with ⟨small, size⟩ | ⟨large, size⟩
  · simp only [size, bind, Except.bind]
    split
    · simp_all
    · split <;> simp_all
  · simp only [size, bind, Except.bind, reduceCtorEq, false_iff]
    omega

/-- The three verdicts on a response, in the order the checks are made: a
payload that cannot fit, an answer to something else, or the device's own status. -/
theorem checkResponse_cases (request response : RazerReport) :
    (∃ got, checkResponse request response = .error (.dataSizeTooLarge got)) ∨
    (∃ field expected got, checkResponse request response = .error (.responseMismatch field expected got)) ∨
    (RoutesTo request response ∧ checkResponse request response =
      if response.status.isOk then .ok () else .error (.deviceStatus response.status)) := by
  unfold checkResponse
  rcases checkDataSize_cases request with ⟨_, sent⟩ | ⟨_, sent⟩
  · rcases checkDataSize_cases response with ⟨_, got⟩ | ⟨_, got⟩
    · simp only [sent, got, bind, Except.bind]
      split
      · exact Or.inr (Or.inl ⟨_, _, _, rfl⟩)
      · rename_i packets
        split
        · exact Or.inr (Or.inl ⟨_, _, _, rfl⟩)
        · rename_i cls
          split
          · exact Or.inr (Or.inl ⟨_, _, _, rfl⟩)
          · rename_i id
            exact Or.inr (Or.inr ⟨⟨not_not.mp packets, not_not.mp cls, not_not.mp id⟩, rfl⟩)
    · exact Or.inl ⟨_, by rw [sent, got]; rfl⟩
  · exact Or.inl ⟨_, by rw [sent]; rfl⟩

theorem checkResponse_accepts {request response : RazerReport} (sent : request.dataSize.toNat ≤ 80)
    (got : response.dataSize.toNat ≤ 80) (routed : RoutesTo request response) (status : response.status.isOk = true) :
    checkResponse request response = .ok () := by
  obtain ⟨packets, cls, id⟩ := routed
  unfold checkResponse checkDataSize
  rw [if_neg (by omega), if_neg (by omega)]
  simp only [bind, Except.bind, packets, cls, id, status, ne_eq, not_true_eq_false, if_false, if_true]

theorem checkResponse_not_malformed {request response : RazerReport} {what : String} :
    checkResponse request response ≠ .error (.malformed what) := by
  rcases checkResponse_cases request response with ⟨_, verdict⟩ | ⟨_, _, _, verdict⟩ | ⟨_, verdict⟩
  · simp [verdict]
  · simp [verdict]
  · rw [verdict]
    split <;> simp

theorem checkResponse_isOk {request response : RazerReport} (accepted : checkResponse request response = .ok ()) :
    response.status.isOk = true := by
  rcases checkResponse_cases request response with ⟨_, verdict⟩ | ⟨_, _, _, verdict⟩ | ⟨_, verdict⟩
  · rw [verdict] at accepted
    cases accepted
  · rw [verdict] at accepted
    cases accepted
  · rw [verdict] at accepted
    split at accepted
    · assumption
    · cases accepted

end OpenRazer
