import FileShare.Proofs.ValueReading
import FileShare.Wire.Frame

/-!
# Reading payloads back

What the message format promises, for every message and every payload.

* A message whose packet can be made is read back from its payload, **whatever follows it**, and
  from no strict beginning of its payload is anything read.
* Its whole packet is read back too, together with the number of bytes it has.
* Any payload that is read at all, in whatever spelling, is read as a message that the canonical
  spelling brings back.

Each type has three lemmas: what is written has the shape that is read (`ofValue?_toValue`), it
nests to a fixed depth (`sized_toValue`), and what was read from a value of allowed sizes is written
as one (`sized_of_ofValue?`). The last one is what the third promise needs, since nothing else
bounds the lengths in a message that has been read.
-/

namespace FileShare

open MessagePack (Value)

namespace MessagePack.Value

/-! ### Shapes of what is written -/

@[simp] theorem text?_ofString (text : String) : (ofString text).text? = some text := by
  have hvalid : String.fromUTF8? text.toUTF8 = some text := by
    rw [String.fromUTF8?]
    exact dif_pos text.isValidUTF8
  exact hvalid

theorem integer?_ofInt (value : Int64) : (ofInt value).integer? = some value.toInt := by
  unfold ofInt
  split
  · rename_i hle
    have hnonneg : 0 ≤ value.toInt := Int64.le_iff_toInt_le.1 hle
    have htoNat : (value.toUInt64.toNat : Int) = value.toInt := by
      rw [Int64.toNat_toUInt64_of_le hle]
      exact Int.toNat_of_nonneg hnonneg
    exact congrArg some htoNat
  · rfl

@[simp] theorem int64?_ofInt (value : Int64) : (ofInt value).int64? = some value := by
  have hlow := value.le_toInt
  have hhigh := value.toInt_lt
  rw [int64?, within?, integer?_ofInt]
  dsimp only
  rw [if_pos (by omega), Option.map_some, Int64.ofInt_toInt]

@[simp] theorem int32?_ofInt (value : Int32) : (ofInt value.toInt64).int32? = some value := by
  have hlow := value.le_toInt
  have hhigh := value.toInt_lt
  rw [int32?, within?, integer?_ofInt, Int32.toInt_toInt64]
  dsimp only
  rw [if_pos (by omega), Option.map_some, Int32.ofInt_toInt]

@[simp] theorem uint64?_uint (value : UInt64) : (uint value).uint64? = some value := by
  have hhigh := value.toNat_lt
  simp [uint64?, within?, integer?]
  omega

@[simp] theorem uint32?_uint (value : UInt32) : (uint value.toUInt64).uint32? = some value := by
  have hhigh := value.toNat_lt
  simp [uint32?, within?, integer?]
  omega

@[simp] theorem flag?_bool (value : Bool) : (bool value).flag? = some value := rfl

theorem record?_array {names : List String} {items : List Value}
    (h : items.length = names.length) : (array items).record? names = some (items.map some) :=
  if_pos h

theorem list?_array {α : Type} {read : Value → Option α} {write : α → Value}
    (h : ∀ x, read (write x) = some x) (xs : List α) :
    (array (xs.map write)).list? read = some xs := by
  have hmap : ∀ xs : List α, (xs.map write).mapM read = some xs := by
    intro xs
    induction xs with
    | nil => rfl
    | cons x xs ih => rw [List.map_cons, List.mapM_cons, h, ih]; rfl
  exact hmap xs

theorem optional?_map {α : Type} {read : Value → Option α} {write : α → Value}
    (h : ∀ x, read (write x) = some x) (hnil : ∀ x, write x ≠ nil) (x : Option α) :
    ((x.map write).getD nil).optional? read = some x := by
  rcases x with - | x
  · rfl
  · show (write x).optional? read = some (some x)
    have hread : (write x).optional? read = (read (write x)).map some := by
      have := hnil x
      unfold optional?
      split
      · contradiction
      · rfl
    rw [hread, h, Option.map_some]

theorem eq_some_of_optional? {α : Type} {value : Value} {read : Value → Option α} {x : Option α}
    (hx : value.optional? read = some x) : ∀ y ∈ x, read value = some y := by
  intro y hy
  unfold optional? at hx
  split at hx
  · obtain rfl := Option.some.inj hx
    exact nomatch hy
  · obtain ⟨z, hz, rfl⟩ := Option.map_eq_some_iff.1 hx
    obtain rfl := Option.some.inj hy
    exact hz

end MessagePack.Value

/-! ### Each type is read back -/

theorem FileInfo.ofValue?_toValue (info : FileInfo) :
    FileInfo.ofValue? info.toValue = some info := by
  simp [ofValue?, toValue, Value.record?_array]

theorem Credentials.ofValue?_toValue (credentials : Credentials) :
    Credentials.ofValue? credentials.toValue = some credentials := by
  simp [ofValue?, toValue, Value.record?_array]

theorem ListingOptions.ofValue?_toValue (options : ListingOptions) :
    ListingOptions.ofValue? (.array [.uint options.pageSize.toUInt64, .bool options.onlyFolders,
      .bool options.showHidden]) = some options := by
  simp [ofValue?, Value.record?_array]

theorem ByteRange.ofValue?_toValue (range : ByteRange) :
    ByteRange.ofValue? (.array [.uint range.first, .uint range.last,
      .uint range.chunkSize.toUInt64]) = some range := by
  simp [ofValue?, Value.record?_array]

theorem Parameters.ofValue?_toValue (parameters : Parameters) :
    Parameters.ofValue? parameters.toValue = some parameters := by
  cases parameters with
  | none => rfl
  | listing options =>
    exact congrArg (Option.map listing) (ListingOptions.ofValue?_toValue options)
  | range range => exact congrArg (Option.map Parameters.range) (ByteRange.ofValue?_toValue range)
  | upload data => rfl

theorem Request.ofValue?_toValue (request : Request) :
    Request.ofValue? request.toValue = some request := by
  have hcredentials := Value.optional?_map Credentials.ofValue?_toValue
    (fun _ ↦ by simp [Credentials.toValue]) request.credentials
  simp [ofValue?, toValue, Value.record?_array, Parameters.ofValue?_toValue, hcredentials]

theorem Response.ofValue?_toValue (response : Response) :
    Response.ofValue? response.toValue = some response := by
  cases response with
  | page entries =>
    exact congrArg (Option.map page) (Value.list?_array FileInfo.ofValue?_toValue entries)
  | downloadInit info => exact congrArg (Option.map downloadInit) info.ofValue?_toValue
  | downloadData data => rfl
  | folderAdded info => exact congrArg (Option.map folderAdded) info.ofValue?_toValue
  | connectionTested info => exact congrArg (Option.map connectionTested) info.ofValue?_toValue
  | deleted info => exact congrArg (Option.map deleted) info.ofValue?_toValue

theorem Status.ofValue?_toValue (status : Status) :
    Status.ofValue? status.toValue = some status := by
  simp [ofValue?, toValue, Value.record?_array]

theorem Body.ofValue?_toValue (body : Body) : Body.ofValue? body.toValue = some body := by
  cases body with
  | empty => rfl
  | request content => exact congrArg (Option.map request) content.ofValue?_toValue
  | response content => exact congrArg (Option.map response) content.ofValue?_toValue
  | status content => exact congrArg (Option.map status) content.ofValue?_toValue

theorem Message.ofValue?_toValue (message : Message) :
    Message.ofValue? message.toValue = some message := by
  simp [ofValue?, toValue, Value.record?_array, Body.ofValue?_toValue]

/-! ### Sizes of what is read -/

@[simp] theorem MessagePack.Value.sized_array_iff {p : Nat → Prop} {d : Nat} {items : List Value} :
    (array items).Sized p (d + 1) ↔ p items.length ∧ ∀ item ∈ items, item.Sized p d := by
  constructor
  · intro h
    cases h with
    | array length each => exact ⟨length, each⟩
  · rintro ⟨length, each⟩
    exact .array length each

namespace MessagePack.Value.Sized

variable {p : Nat → Prop} {d e : Nat} {value : Value}

theorem of_text? (h : value.Sized p d) {text : String} (htext : value.text? = some text) :
    (ofString text).Sized p e := by
  have hbytes : ∀ bytes, String.fromUTF8? bytes = some text → text.toUTF8 = bytes := by
    intro bytes heq
    rw [String.fromUTF8?] at heq
    obtain ⟨hvalid, htext⟩ := Option.dite_none_right_eq_some.1 heq
    obtain rfl := Option.some.inj htext
    rfl
  cases h with
  | str size => exact str (hbytes _ htext ▸ size)
  | bin size => exact str (hbytes _ htext ▸ size)
  | _ => exact nomatch htext

theorem size_of_bytesOfItems {items : List Value} {done bytes : ByteArray}
    (h : bytesOfItems items done = some bytes) : bytes.size = done.size + items.length := by
  induction items generalizing done with
  | nil =>
    obtain rfl := Option.some.inj h
    rfl
  | cons item items ih =>
    rw [bytesOfItems] at h
    split at h
    · rw [ih h, ByteArray.size_push, List.length_cons]
      omega
    · exact nomatch h

theorem of_bytes? (h : value.Sized p d) {bytes : ByteArray} (hbytes : value.bytes? = some bytes) :
    (Value.bin bytes).Sized p e := by
  cases h with
  | str size => exact bin (Option.some.inj hbytes ▸ size)
  | bin size => exact bin (Option.some.inj hbytes ▸ size)
  | @array _ items length each =>
    have hsize : bytes.size = items.length := by
      rw [size_of_bytesOfItems hbytes, ByteArray.size_empty, Nat.zero_add]
    exact bin (hsize ▸ length)
  | _ => exact nomatch hbytes

theorem of_list? (h : value.Sized p d) {α : Type} {read : Value → Option α} {xs : List α}
    (hxs : value.list? read = some xs) :
    p xs.length ∧ ∀ x ∈ xs, ∃ item : Value, item.Sized p d ∧ read item = some x := by
  have hread : ∀ {items : List Value} {xs : List α}, items.mapM read = some xs →
      items.length = xs.length ∧ ∀ x ∈ xs, ∃ item ∈ items, read item = some x := by
    intro items
    induction items with
    | nil =>
      intro xs heq
      obtain rfl := Option.some.inj heq
      exact ⟨rfl, by simp⟩
    | cons item items ih =>
      intro xs heq
      rw [List.mapM_cons] at heq
      obtain ⟨x, hx, heq⟩ := Option.bind_eq_some_iff.1 heq
      obtain ⟨later, hlater, heq⟩ := Option.bind_eq_some_iff.1 heq
      obtain rfl := Option.some.inj heq
      obtain ⟨hlength, heach⟩ := ih hlater
      refine ⟨congrArg (· + 1) hlength, fun y hy ↦ ?_⟩
      rcases List.mem_cons.1 hy with rfl | hy
      · exact ⟨item, List.mem_cons_self, hx⟩
      · obtain ⟨other, hother, hy⟩ := heach y hy
        exact ⟨other, List.mem_cons_of_mem item hother, hy⟩
  cases h with
  | @array depth items length each =>
    obtain ⟨hlength, hfound⟩ := hread hxs
    refine ⟨hlength ▸ length, fun x hx ↦ ?_⟩
    obtain ⟨item, hitem, hx⟩ := hfound x hx
    exact ⟨item, (each item hitem).mono (fun _ hn ↦ hn) (Nat.le_succ _), hx⟩
  | _ => exact nomatch hxs

theorem of_enterFields {names : List String} {entries : List (Value × Value)}
    {fields entered : List (Option Value)}
    (hentries : ∀ entry ∈ entries, entry.2.Sized p d)
    (hfields : ∀ field, some field ∈ fields → field.Sized p d)
    (h : enterFields names entries fields = some entered) :
    ∀ field, some field ∈ entered → field.Sized p d := by
  induction entries generalizing fields with
  | nil =>
    obtain rfl := Option.some.inj h
    exact hfields
  | cons entry entries ih =>
    obtain ⟨key, content⟩ := entry
    have hlater := fun entry hentry ↦ hentries entry (List.mem_cons_of_mem (key, content) hentry)
    rw [enterFields] at h
    split at h
    · exact nomatch h
    · exact ih hlater hfields h
    · split at h
      · refine ih hlater (fun field hfield ↦ ?_) h
        rcases List.mem_or_eq_of_mem_set hfield with hold | hnew
        · exact hfields field hold
        · obtain rfl := Option.some.inj hnew
          exact hentries (key, field) List.mem_cons_self
      · exact nomatch h

theorem of_record? (h : value.Sized p d) {names : List String} {fields : List (Option Value)}
    (hfields : value.record? names = some fields) :
    ∀ field, some field ∈ fields → field.Sized p d := by
  cases h with
  | array length each =>
    rw [record?] at hfields
    split at hfields
    · obtain rfl := Option.some.inj hfields
      intro field hfield
      obtain ⟨item, hitem, heq⟩ := List.mem_map.1 hfield
      obtain rfl := Option.some.inj heq
      exact (each item hitem).mono (fun _ hn ↦ hn) (Nat.le_succ _)
    · exact nomatch hfields
  | map length keys values =>
    refine of_enterFields (fun entry hentry ↦ ?_) (fun field hfield ↦ ?_) hfields
    · exact (values entry hentry).mono (fun _ hn ↦ hn) (Nat.le_succ _)
    · exact absurd (List.eq_of_mem_replicate hfield) (by simp)
  | _ => exact nomatch hfields

theorem of_case? (h : value.Sized p d) {names : List String} {i : Nat} {content : Value}
    (hcase : value.case? names = some (i, some content)) : content.Sized p d := by
  unfold case? at hcase
  split at hcase
  · rename_i key inner
    split at hcase
    · obtain ⟨-, hinner⟩ := Prod.mk.inj (Option.some.inj hcase)
      obtain rfl := Option.some.inj hinner
      cases h with
      | map length keys values =>
        exact (values (key, inner) List.mem_cons_self).mono (fun _ hn ↦ hn) (Nat.le_succ _)
    · exact nomatch hcase
  · exact nomatch hcase
  · exact nomatch hcase
  · split at hcase
    · exact nomatch (Prod.mk.inj (Option.some.inj hcase)).2
    · exact nomatch hcase

theorem ofInt (i : Int64) : (ofInt i).Sized p d := by
  unfold Value.ofInt
  split
  · exact uint _
  · exact int _

theorem ofCase {name : String} {content : Value} (hp : ∀ n ≤ 16, p n)
    (hname : name.toUTF8.size ≤ 16) (hcontent : content.Sized p d) :
    (ofCase name content).Sized p (d + 1) := by
  refine map (hp 1 (by decide)) (fun entry hentry ↦ ?_) (fun entry hentry ↦ ?_)
  · obtain rfl := List.mem_singleton.1 hentry
    exact str (hp _ hname)
  · obtain rfl := List.mem_singleton.1 hentry
    exact hcontent

/-- What is sized holds what is sized. -/
theorem content_of_ofCase {name : String} {content : Value}
    (h : (Value.ofCase name content).Sized p (d + 1)) : content.Sized p d := by
  cases h with
  | map _ _ values => exact values _ (List.mem_singleton_self _)

end MessagePack.Value.Sized

section Sizes

open MessagePack.Value (Sized)

variable {p : Nat → Prop} {d : Nat} {value : Value} (hp : ∀ n ≤ 16, p n)
include hp

theorem FileInfo.sized_of_ofValue? (h : value.Sized p d) {info : FileInfo}
    (hinfo : FileInfo.ofValue? value = some info) : info.toValue.Sized p 1 := by
  unfold ofValue? at hinfo
  split at hinfo
  · rename_i name _ _ _ _ _ hrecord
    have hname := h.of_record? hrecord name (by simp)
    simp only [Option.bind_eq_bind, Option.bind_eq_some_iff, Option.pure_def,
      Option.some.injEq] at hinfo
    obtain ⟨text, htext, _, _, _, _, _, _, _, _, _, _, rfl⟩ := hinfo
    simp [toValue, hp, Sized.ofInt, Sized.bool, Sized.uint, hname.of_text? htext]
  · exact nomatch hinfo

theorem Credentials.sized_of_ofValue? (h : value.Sized p d) {credentials : Credentials}
    (hcredentials : Credentials.ofValue? value = some credentials) :
    credentials.toValue.Sized p 1 := by
  unfold ofValue? at hcredentials
  split at hcredentials
  · rename_i url workgroup username password _ hrecord
    have hurl := h.of_record? hrecord url (by simp)
    have hworkgroup := h.of_record? hrecord workgroup (by simp)
    have husername := h.of_record? hrecord username (by simp)
    have hpassword := h.of_record? hrecord password (by simp)
    simp only [Option.bind_eq_bind, Option.bind_eq_some_iff, Option.pure_def,
      Option.some.injEq] at hcredentials
    obtain ⟨_, hu, _, hw, _, hn, _, hs, _, _, rfl⟩ := hcredentials
    simp [toValue, hp, Sized.bool, hurl.of_text? hu, hworkgroup.of_text? hw,
      husername.of_text? hn, hpassword.of_text? hs]
  · exact nomatch hcredentials

theorem Parameters.sized_of_ofValue? (h : value.Sized p d) {parameters : Parameters}
    (hparameters : Parameters.ofValue? value = some parameters) :
    parameters.toValue.Sized p 2 := by
  unfold ofValue? at hparameters
  split at hparameters
  · split at hparameters
    · obtain rfl := Option.some.inj hparameters
      exact .str (hp _ (by decide))
    · exact nomatch hparameters
  · obtain ⟨options, -, rfl⟩ := Option.map_eq_some_iff.1 hparameters
    exact .ofCase hp (by decide) (by simp [hp, Sized.bool, Sized.uint])
  · obtain ⟨range, -, rfl⟩ := Option.map_eq_some_iff.1 hparameters
    exact .ofCase hp (by decide) (by simp [hp, Sized.uint])
  · rename_i hcase
    obtain ⟨data, hdata, rfl⟩ := Option.map_eq_some_iff.1 hparameters
    exact .ofCase hp (by decide) ((h.of_case? hcase).of_bytes? hdata)
  · exact nomatch hparameters

theorem Request.sized_of_ofValue? (h : value.Sized p d) {request : Request}
    (hrequest : Request.ofValue? value = some request) : request.toValue.Sized p 3 := by
  unfold ofValue? at hrequest
  split at hrequest
  · rename_i credentials parameters hrecord
    simp only [Option.bind_eq_bind, Option.bind_eq_some_iff, Option.pure_def,
      Option.some.injEq] at hrequest
    obtain ⟨asker, hasker, read, hread, rfl⟩ := hrequest
    have hparameters : read.toValue.Sized p 2 :=
      Parameters.sized_of_ofValue? hp (h.of_record? hrecord parameters (by simp)) hread
    have hcredentials : ((asker.map Credentials.toValue).getD .nil).Sized p 2 := by
      rcases asker with - | asker
      · exact .nil
      · have hsized : (credentials.getD .nil).Sized p d := by
          rcases credentials with - | credentials
          · exact .nil
          · exact h.of_record? hrecord credentials (by simp)
        have hread := Value.eq_some_of_optional? hasker asker rfl
        exact (Credentials.sized_of_ofValue? hp hsized hread).mono (fun _ hn ↦ hn) (by decide)
    simp [toValue, hp, hparameters, hcredentials]
  · exact nomatch hrequest

theorem Response.sized_of_ofValue? (h : value.Sized p d) {response : Response}
    (hresponse : Response.ofValue? value = some response) : response.toValue.Sized p 3 := by
  have hinfo : ∀ {content : Value} {info : FileInfo}, content.Sized p d →
      FileInfo.ofValue? content = some info → info.toValue.Sized p 2 :=
    fun hcontent hread ↦
      (FileInfo.sized_of_ofValue? hp hcontent hread).mono (fun _ hn ↦ hn) (by decide)
  unfold ofValue? at hresponse
  split at hresponse
  · rename_i hcase
    obtain ⟨entries, hentries, rfl⟩ := Option.map_eq_some_iff.1 hresponse
    obtain ⟨hlength, hread⟩ := (h.of_case? hcase).of_list? hentries
    refine .ofCase hp (by decide) (.array (by simpa using hlength) fun item hitem ↦ ?_)
    obtain ⟨info, hmem, rfl⟩ := List.mem_map.1 hitem
    obtain ⟨content, hcontent, hread⟩ := hread info hmem
    exact FileInfo.sized_of_ofValue? hp hcontent hread
  · rename_i hcase
    obtain ⟨info, hread, rfl⟩ := Option.map_eq_some_iff.1 hresponse
    exact .ofCase hp (by decide) (hinfo (h.of_case? hcase) hread)
  · rename_i hcase
    obtain ⟨data, hread, rfl⟩ := Option.map_eq_some_iff.1 hresponse
    exact .ofCase hp (by decide) ((h.of_case? hcase).of_bytes? hread)
  · rename_i hcase
    obtain ⟨info, hread, rfl⟩ := Option.map_eq_some_iff.1 hresponse
    exact .ofCase hp (by decide) (hinfo (h.of_case? hcase) hread)
  · rename_i hcase
    obtain ⟨info, hread, rfl⟩ := Option.map_eq_some_iff.1 hresponse
    exact .ofCase hp (by decide) (hinfo (h.of_case? hcase) hread)
  · rename_i hcase
    obtain ⟨info, hread, rfl⟩ := Option.map_eq_some_iff.1 hresponse
    exact .ofCase hp (by decide) (hinfo (h.of_case? hcase) hread)
  · exact nomatch hresponse

theorem Status.sized_of_ofValue? (h : value.Sized p d) {status : Status}
    (hstatus : Status.ofValue? value = some status) : status.toValue.Sized p 1 := by
  unfold ofValue? at hstatus
  split at hstatus
  · rename_i code text hrecord
    have htext := h.of_record? hrecord text (by simp)
    simp only [Option.bind_eq_bind, Option.bind_eq_some_iff, Option.pure_def,
      Option.some.injEq] at hstatus
    obtain ⟨_, _, _, hread, rfl⟩ := hstatus
    simp [toValue, hp, Sized.ofInt, htext.of_text? hread]
  · exact nomatch hstatus

theorem Body.sized_of_ofValue? (h : value.Sized p d) {body : Body}
    (hbody : Body.ofValue? value = some body) : body.toValue.Sized p 4 := by
  unfold ofValue? at hbody
  split at hbody
  · split at hbody
    · obtain rfl := Option.some.inj hbody
      exact .str (hp _ (by decide))
    · exact nomatch hbody
  · rename_i hcase
    obtain ⟨request, hread, rfl⟩ := Option.map_eq_some_iff.1 hbody
    exact .ofCase hp (by decide) (Request.sized_of_ofValue? hp (h.of_case? hcase) hread)
  · rename_i hcase
    obtain ⟨response, hread, rfl⟩ := Option.map_eq_some_iff.1 hbody
    exact .ofCase hp (by decide) (Response.sized_of_ofValue? hp (h.of_case? hcase) hread)
  · rename_i hcase
    obtain ⟨status, hread, rfl⟩ := Option.map_eq_some_iff.1 hbody
    exact .ofCase hp (by decide) <|
      (Status.sized_of_ofValue? hp (h.of_case? hcase) hread).mono (fun _ hn ↦ hn) (by decide)
  · exact nomatch hbody

theorem Message.sized_of_ofValue? (h : value.Sized p d) {message : Message}
    (hmessage : Message.ofValue? value = some message) : message.toValue.Sized p 5 := by
  unfold ofValue? at hmessage
  split at hmessage
  · rename_i command body hrecord
    split at hmessage
    · rename_i requestId code hcommand
      have hrequestId := (h.of_record? hrecord command (by simp)).of_record? hcommand requestId
        (by simp)
      simp only [Option.bind_eq_bind, Option.bind_eq_some_iff, Option.pure_def,
        Option.some.injEq] at hmessage
      obtain ⟨_, htext, _, _, _, hread, rfl⟩ := hmessage
      have hbody := Body.sized_of_ofValue? hp (h.of_record? hrecord body (by simp)) hread
      simp [toValue, hp, Sized.ofInt, hrequestId.of_text? htext, hbody]
    · exact nomatch hmessage
  · exact nomatch hmessage

end Sizes

/-! ### Every value has sizes -/

namespace MessagePack.Value

mutual

theorem exists_sized : ∀ value : Value, ∃ d, value.Sized (fun _ ↦ True) d
  | nil => ⟨0, .nil⟩
  | bool value => ⟨0, .bool value⟩
  | uint value => ⟨0, .uint value⟩
  | int value => ⟨0, .int value⟩
  | float32 bits => ⟨0, .float32 bits⟩
  | float64 bits => ⟨0, .float64 bits⟩
  | str _ => ⟨0, .str trivial⟩
  | bin _ => ⟨0, .bin trivial⟩
  | ext _ _ => ⟨0, .ext trivial⟩
  | array items =>
    have ⟨d, h⟩ := exists_sized_items items
    ⟨d + 1, .array trivial h⟩
  | map entries =>
    have ⟨d, h⟩ := exists_sized_entries entries
    ⟨d + 1, .map trivial (fun entry hentry ↦ (h entry hentry).1) fun entry hentry ↦
      (h entry hentry).2⟩

theorem exists_sized_items : ∀ items : List Value, ∃ d, ∀ item ∈ items,
    item.Sized (fun _ ↦ True) d
  | [] => ⟨0, by simp⟩
  | item :: items => by
    obtain ⟨d, hd⟩ := exists_sized item
    obtain ⟨e, he⟩ := exists_sized_items items
    refine ⟨max d e, fun other hother ↦ ?_⟩
    rcases List.mem_cons.1 hother with rfl | hother
    · exact hd.mono (fun _ h ↦ h) (Nat.le_max_left d e)
    · exact (he other hother).mono (fun _ h ↦ h) (Nat.le_max_right d e)

theorem exists_sized_entries : ∀ entries : List (Value × Value), ∃ d, ∀ entry ∈ entries,
    entry.1.Sized (fun _ ↦ True) d ∧ entry.2.Sized (fun _ ↦ True) d
  | [] => ⟨0, by simp⟩
  | (key, value) :: entries => by
    obtain ⟨c, hc⟩ := exists_sized key
    obtain ⟨d, hd⟩ := exists_sized value
    obtain ⟨e, he⟩ := exists_sized_entries entries
    refine ⟨max (max c d) e, fun other hother ↦ ?_⟩
    rcases List.mem_cons.1 hother with rfl | hother
    · exact ⟨hc.mono (fun _ h ↦ h) (by omega), hd.mono (fun _ h ↦ h) (by omega)⟩
    · exact ⟨(he other hother).1.mono (fun _ h ↦ h) (by omega),
        (he other hother).2.mono (fun _ h ↦ h) (by omega)⟩

end

end MessagePack.Value

/-! ### Packets -/

theorem Packet.ofMessage_of_le {message : Message}
    (h : message.payload.size ≤ Header.maxPayload) :
    ofMessage message = .ok ⟨message.payload.size, message.payload, 0, 0⟩ :=
  if_neg (Nat.not_lt.2 h)

theorem Packet.ofMessage_eq_ok {message : Message} {packet : Packet}
    (h : Packet.ofMessage message = .ok packet) :
    message.payload.size ≤ Header.maxPayload ∧
      packet = ⟨message.payload.size, message.payload, 0, 0⟩ := by
  unfold ofMessage at h
  dsimp only at h
  split at h
  · exact nomatch h
  · rename_i hle
    exact ⟨Nat.not_lt.1 hle, (Except.ok.inj h).symm⟩

theorem Header.toNat_ofLength {length : Nat} (h : length ≤ maxPayload) :
    (UInt32.ofNat length).toNat = length :=
  UInt32.toNat_ofNat_of_lt' (Nat.lt_of_le_of_lt h (by decide))

/-- **The header of a packet reads back**, whatever follows it. -/
theorem Header.ofBytes_append {length : Nat} (h : length ≤ maxPayload) (behind : ByteArray) :
    ofBytes ((ofLength (UInt32.ofNat length)).bytes ++ behind) =
      .ok (ofLength (UInt32.ofNat length)) := by
  have hlimit : maxPayload < wordCount 4 := by decide
  have hfront : ((ofLength (UInt32.ofNat length)).bytes ++ behind).extract 0 size =
      (ofLength (UInt32.ofNat length)).bytes := by
    rw [ByteArray.extract_append_eq_left]
    exact (size_bytes _).symm
  have hbytes : (ofLength (UInt32.ofNat length)).bytes.data.toList =
      currentVersion :: (bigEndian 4 length ++ List.replicate 11 0) := by
    rw [bytes, ofLength, toNat_ofLength h]
  have hword : ofBigEndian ((bigEndian 4 length ++ List.replicate 11 0).take 4) = length := by
    rw [List.take_left' (length_bigEndian 4 length)]
    exact ofBigEndian_bigEndian (by omega)
  rw [ofBytes, if_neg, hfront, hbytes]
  · dsimp only
    rw [if_neg (by simp), hword, if_neg (by omega)]
    rfl
  · rw [ByteArray.size_append, size_bytes]
    omega

namespace Message

/-- A message nests to a fixed depth, whatever its lengths. -/
theorem sized_toValue (message : Message) : message.toValue.Sized (fun _ ↦ True) 5 := by
  obtain ⟨d, hd⟩ := Value.exists_sized message.toValue
  exact sized_of_ofValue? (fun _ _ ↦ trivial) hd message.ofValue?_toValue

theorem toList_payload (message : Message) :
    message.payload.data.toList = message.toValue.bytes := by
  rw [payload, List.data_toByteArray]

/-- Where a packet can be made of a message, no length in it is too long for its four bytes. -/
theorem sized_of_ofMessage {message : Message} {packet : Packet}
    (h : Packet.ofMessage message = .ok packet) :
    message.toValue.Sized (· < wordCount 4) maxDepth := by
  have hpayload : message.payload.size ≤ Header.maxPayload := (Packet.ofMessage_eq_ok h).1
  have hlength : message.toValue.bytes.length = message.payload.size := by
    rw [payload, List.size_toByteArray]
  have hlimit : Header.maxPayload < wordCount 4 := by decide
  have hsized := (message.sized_toValue.lt_length_write []).2
  exact hsized.mono (fun n hn ↦ show n < wordCount 4 by rw [← Value.bytes] at hn; omega) (by decide)

variable {message : Message}

/-- **Whatever follows a payload, its message is read.** -/
theorem ofPayload?_append (h : message.toValue.Sized (· < wordCount 4) maxDepth)
    (behind : ByteArray) : ofPayload? (message.payload ++ behind) = some message := by
  have hread : Value.read maxDepth (before (message.payload ++ behind) []) =
      some (message.toValue, behind.data.toList) := by
    rw [before_eq_append, ByteArray.data_append, Array.toList_append, List.append_nil,
      toList_payload]
    exact Value.steady_read maxDepth (Value.read_write h []) behind.data.toList
  rw [ofPayload?, hread]
  exact message.ofValue?_toValue

/-- **From a strict beginning of a payload, nothing is read.** -/
theorem ofPayload?_eq_none (h : message.toValue.Sized (· < wordCount 4) maxDepth)
    {front missing : ByteArray} (hpayload : message.payload = front ++ missing)
    (hmissing : missing.size ≠ 0) : ofPayload? front = none := by
  have hspelling : message.toValue.bytes = front.data.toList ++ missing.data.toList := by
    rw [← toList_payload, hpayload, ByteArray.data_append, Array.toList_append]
  have hne : missing.data.toList ≠ [] := by
    intro hnil
    exact hmissing (by simpa using congrArg List.length hnil)
  rw [ofPayload?, before_eq_append, List.append_nil,
    Value.read_eq_none_of_append h hspelling hne]

/-- **What has been read is read again** from its canonical spelling. -/
theorem ofPayload?_payload {given : ByteArray} (h : ofPayload? given = some message) :
    ofPayload? message.payload = some message := by
  unfold ofPayload? at h
  split at h
  · rename_i value rest hread
    have hvalue := Value.yields_read maxDepth hread
    have hsized : message.toValue.Sized (· < wordCount 4) maxDepth :=
      (sized_of_ofValue? (fun n hn ↦ Nat.lt_of_le_of_lt hn (by decide)) hvalue h).mono
        (fun _ hn ↦ hn) (by decide)
    have hagain := ofPayload?_append hsized ByteArray.empty
    rwa [ByteArray.append_empty] at hagain
  · exact nomatch h

end Message

theorem Frame.decode_eq_ok {data : ByteArray} {header : Header} {message : Message}
    (hheader : Header.ofBytes data = .ok header)
    (hsize : Header.size + header.length.toNat ≤ data.size)
    (hread : Message.ofPayload? (data.extract Header.size (Header.size + header.length.toNat)) =
      some message) : decode data = .ok (message, Header.size + header.length.toNat) := by
  rw [decode, hheader]
  simp only [bind, Except.bind]
  rw [if_neg (Nat.not_lt.2 hsize), hread]
  rfl

/-- **A whole packet is read back**, with the number of bytes it has, whatever follows it. -/
theorem Frame.decode_append {message : Message} {packet : Packet}
    (h : Packet.ofMessage message = .ok packet) (behind : ByteArray) :
    decode (packet.bytes ++ behind) = .ok (message, packet.bytes.size) := by
  have hread := Message.ofPayload?_append (Message.sized_of_ofMessage h) ByteArray.empty
  rw [ByteArray.append_empty] at hread
  obtain ⟨hle, hpacket⟩ := Packet.ofMessage_eq_ok h
  have hheader : packet.header = (Header.ofLength (UInt32.ofNat message.payload.size)).bytes := by
    rw [hpacket, Packet.header]
  have hbytes : packet.bytes = packet.header ++ message.payload := by
    rw [hpacket, Packet.bytes]
  have hlength := Header.toNat_ofLength hle
  have hsize : packet.bytes.size = Header.size + (UInt32.ofNat message.payload.size).toNat := by
    rw [hbytes, ByteArray.size_append, Packet.size_header, hlength]
  have hextract : (packet.bytes ++ behind).extract Header.size packet.bytes.size =
      message.payload := by
    rw [ByteArray.extract_append_size_left, hbytes]
    exact ByteArray.extract_append_eq_right packet.size_header.symm ByteArray.size_append
  rw [hsize]
  refine @decode_eq_ok _ (Header.ofLength (UInt32.ofNat message.payload.size)) _ ?_ ?_ ?_
  · rw [hbytes, hheader, ByteArray.append_assoc]
    exact Header.ofBytes_append hle (message.payload ++ behind)
  · show Header.size + (UInt32.ofNat message.payload.size).toNat ≤ _
    rw [ByteArray.size_append, hsize]
    exact Nat.le_add_right _ _
  · show Message.ofPayload? ((packet.bytes ++ behind).extract Header.size
      (Header.size + (UInt32.ofNat message.payload.size).toNat)) = _
    rw [← hsize, hextract, hread]

/-- **The message format round-trips.** Where a packet can be made of a message, the message is
read from its payload whatever follows, and from no strict beginning of the payload; the bytes of
the packet are read back with their number. And whatever spelling a message was read from, it is
read again from the canonical one. -/
theorem Message.reads_back :
    (∀ (message : Message) (packet : Packet), Packet.ofMessage message = .ok packet →
      (∀ behind, ofPayload? (message.payload ++ behind) = some message) ∧
      (∀ front missing, message.payload = front ++ missing → missing.size ≠ 0 →
        ofPayload? front = none) ∧
      ∃ bytes, Frame.encode message = .ok bytes ∧
        ∀ behind, Frame.decode (bytes ++ behind) = .ok (message, bytes.size)) ∧
    ∀ (given : ByteArray) (message : Message), ofPayload? given = some message →
      ofPayload? message.payload = some message := by
  refine ⟨fun message packet h ↦ ⟨?_, ?_, packet.bytes, ?_, ?_⟩, fun given message h ↦ ?_⟩
  · exact ofPayload?_append (sized_of_ofMessage h)
  · exact fun front missing ↦ ofPayload?_eq_none (sized_of_ofMessage h)
  · rw [Frame.encode, h]
    rfl
  · exact Frame.decode_append h
  · exact ofPayload?_payload h

/-- A page of a listing, with one entry. -/
def Message.notesPage : Message :=
  of "r-1" .listingInitResp
    (.response (.page [⟨"notes.txt", false, 5, 0, -1, Attribute.normal⟩]))

theorem Message.reads_back_notesPage :
    (∃ packet, Packet.ofMessage notesPage = .ok packet) ∧
      notesPage.payload = notesPage.payload.extract 0 20 ++ notesPage.payload.extract 20 57 ∧
      ofPayload? (notesPage.payload ++ ⟨#[7]⟩) = some notesPage ∧
      ofPayload? (notesPage.payload.extract 0 20) = none ∧
      ofPayload? notesPage.payload = some notesPage := by
  have hsize : notesPage.payload.size ≤ Header.maxPayload := by decide +kernel
  have hcut : notesPage.payload =
      notesPage.payload.extract 0 20 ++ notesPage.payload.extract 20 57 := by decide +kernel
  have hmissing : (notesPage.payload.extract 20 57).size ≠ 0 := by decide +kernel
  have hpacket := Packet.ofMessage_of_le hsize
  obtain ⟨hback, hfront, -⟩ := reads_back.1 notesPage _ hpacket
  have hread := hback ⟨#[7]⟩
  exact ⟨⟨_, hpacket⟩, hcut, hread, hfront _ _ hcut hmissing, reads_back.2 _ notesPage hread⟩

end FileShare
