import GetOffline.StoredKeys

set_option autoImplicit true

namespace Python

/-- What stands behind the last separator is told apart from what stands before it. -/
theorem append_cons_inj_last {c : α} (has : c ∉ as) (hbs : c ∉ bs) (h : xs ++ c :: as = ys ++ c :: bs) :
    xs = ys ∧ as = bs := by
  have hreverse := congrArg List.reverse h
  rw [List.reverse_append, List.reverse_append, List.reverse_cons, List.reverse_cons, List.append_assoc,
    List.append_assoc, List.singleton_append, List.singleton_append] at hreverse
  obtain ⟨hlast, hfirst⟩ := append_cons_inj (by rwa [List.mem_reverse]) (by rwa [List.mem_reverse])
    hreverse
  exact ⟨List.reverse_injective hfirst, List.reverse_injective hlast⟩

theorem separated_last_inj {first second last last' sep : String} {c : Char} (hsep : sep.toList = [c])
    (hlast : c ∉ last.toList) (hlast' : c ∉ last'.toList) :
    first ++ sep ++ last = second ++ sep ++ last' ↔ first = second ∧ last = last' := by
  constructor
  · intro h
    have hlist := congrArg String.toList h
    rw [String.toList_append, String.toList_append, String.toList_append, String.toList_append, hsep,
      List.append_assoc, List.append_assoc, List.singleton_append, List.singleton_append] at hlist
    obtain ⟨hfirst, htail⟩ := append_cons_inj_last hlast hlast' hlist
    exact ⟨String.toList_injective hfirst, String.toList_injective htail⟩
  · rintro ⟨rfl, rfl⟩
    rfl

end Python

namespace GetOffline
open Python

/-- What an `item_uid` stands for; the downloads are those of one source. -/
inductive ItemIdentity
  | upload (content : List UInt8)
  | imported (channel relativePath : String) (content : List UInt8)
  | downloaded (uid : String)

def ItemWrite.identity (host : Host) : ItemWrite → ItemIdentity
  | .upload content => .upload content
  | .imported file relativePath content => .imported file.channelName relativePath content
  | .downloaded payload info url => .downloaded (downloadedUid host payload info url)

namespace ItemIdentity

def uid (profileId : String) : ItemIdentity → String
  | .upload content => "manual-" ++ sha1Hex content ++ "-" ++ toString content.length
  | .imported channel relativePath content =>
    "manualdir-" ++ profileId ++ "-" ++ channel ++ "-" ++ relativePath ++ "-" ++
      toString content.length ++ "-" ++ sha1Hex content
  | .downloaded uid => cut255 uid

/-- The identities that fit their columns. -/
def Fits (profileId : String) : ItemIdentity → Prop
  | .upload content => (toString content.length).length ≤ 207
  | .imported channel relativePath content =>
    profileId.length + channel.length + relativePath.length + (toString content.length).length ≤ 201
  | .downloaded _ => True

/-- Different identities that have one `item_uid`. -/
def Clash (profileId : String) : ItemIdentity → ItemIdentity → Prop
  | .upload content, .upload content' =>
    content.length = content'.length ∧ sha1Hex content = sha1Hex content'
  | .imported channel relativePath content, .imported channel' relativePath' content' =>
    channel ++ "-" ++ relativePath = channel' ++ "-" ++ relativePath' ∧
      content.length = content'.length ∧ sha1Hex content = sha1Hex content'
  | .downloaded uid, .downloaded uid' => cut255 uid = cut255 uid'
  | .downloaded uid, .upload content | .upload content, .downloaded uid =>
    cut255 uid = "manual-" ++ sha1Hex content ++ "-" ++ toString content.length
  | .downloaded uid, .imported channel relativePath content
  | .imported channel relativePath content, .downloaded uid =>
    cut255 uid = "manualdir-" ++ profileId ++ "-" ++ channel ++ "-" ++ relativePath ++ "-" ++
      toString content.length ++ "-" ++ sha1Hex content
  | _, _ => False

section
variable {profileId : String} {a b : ItemIdentity}

theorem length_cut255 (text : String) : (cut255 text).length ≤ 255 := by
  rw [cut255, String.length_ofList]
  exact List.length_take_le 255 _

theorem fits_iff (identity : ItemIdentity) :
    (identity.uid profileId).length ≤ 255 ↔ identity.Fits profileId := by
  cases identity with
  | upload content =>
    change ("manual-" ++ sha1Hex content ++ "-" ++ toString content.length).length ≤ 255 ↔
      (toString content.length).length ≤ 207
    rw [KeyedOperation.length_joined (by rfl : "manual-".length = 7) (by rfl : "-".length = 1),
      length_sha1Hex]
    omega
  | imported channel relativePath content =>
    change ("manualdir-" ++ profileId ++ "-" ++ channel ++ "-" ++ relativePath ++ "-" ++
        toString content.length ++ "-" ++ sha1Hex content).length ≤ 255 ↔
      profileId.length + channel.length + relativePath.length + (toString content.length).length ≤ 201
    have hchannel := KeyedOperation.length_joined (by rfl : "manualdir-".length = 10)
      (by rfl : "-".length = 1) profileId channel
    have hpath := KeyedOperation.length_append_sep hchannel (by rfl : "-".length = 1) relativePath
    have hsize := KeyedOperation.length_append_sep hpath (by rfl : "-".length = 1)
      (toString content.length)
    rw [KeyedOperation.length_append_sep hsize (by rfl : "-".length = 1), length_sha1Hex]
    clear hchannel hpath hsize
    omega
  | downloaded uid => exact iff_of_true (length_cut255 uid) trivial

theorem upload_uid_inj {content content' : List UInt8} :
    "manual-" ++ sha1Hex content ++ "-" ++ toString content.length =
        "manual-" ++ sha1Hex content' ++ "-" ++ toString content'.length ↔
      content.length = content'.length ∧ sha1Hex content = sha1Hex content' := by
  rw [separated_last_inj rfl (not_mem_toString (by decide) _) (not_mem_toString (by decide) _),
    String.append_right_inj, and_comm]
  exact and_congr_left fun _ => ⟨toString_nat_inj, congrArg toString⟩

theorem imported_uid_inj {content content' : List UInt8} :
    "manualdir-" ++ profileId ++ "-" ++ channel ++ "-" ++ relativePath ++ "-" ++
          toString content.length ++ "-" ++ sha1Hex content =
        "manualdir-" ++ profileId ++ "-" ++ channel' ++ "-" ++ relativePath' ++ "-" ++
          toString content'.length ++ "-" ++ sha1Hex content' ↔
      channel ++ "-" ++ relativePath = channel' ++ "-" ++ relativePath' ∧
        content.length = content'.length ∧ sha1Hex content = sha1Hex content' := by
  have hdash (size : Nat) : '-' ∉ (toString size).toList := not_mem_toString (by decide) size
  rw [KeyedOperation.append_last_inj ((length_sha1Hex content).trans (length_sha1Hex content').symm),
    separated_last_inj rfl (hdash _) (hdash _)]
  have hassoc (channel relativePath : String) : "manualdir-" ++ profileId ++ "-" ++ channel ++ "-" ++
      relativePath = "manualdir-" ++ profileId ++ "-" ++ (channel ++ "-" ++ relativePath) := by
    generalize "manualdir-" ++ profileId ++ "-" = head
    simp only [String.append_assoc]
  rw [hassoc, hassoc, String.append_right_inj, and_assoc]
  exact and_congr_right fun _ => and_congr_left fun _ => ⟨toString_nat_inj, congrArg toString⟩

/-- Uploads and imports are told apart by the first word. -/
theorem upload_ne_imported (channel relativePath : String) (content content' : List UInt8) :
    (upload content).uid profileId ≠ (imported channel relativePath content').uid profileId := by
  intro h
  change "manual" ++ "-" ++ sha1Hex content ++ "-" ++ toString content.length =
    "manualdir" ++ "-" ++ profileId ++ "-" ++ channel ++ "-" ++ relativePath ++ "-" ++
      toString content'.length ++ "-" ++ sha1Hex content' at h
  have hjoined : "manual" ++ "-" ++ (sha1Hex content ++ "-" ++ toString content.length) =
      "manualdir" ++ "-" ++ (profileId ++ "-" ++ channel ++ "-" ++ relativePath ++ "-" ++
        toString content'.length ++ "-" ++ sha1Hex content') := by
    simp only [String.append_assoc] at h ⊢
    exact h
  exact absurd (separated_inj rfl (by decide) (by decide) hjoined).1 (by decide)

theorem uid_eq_iff : a.uid profileId = b.uid profileId ↔ a = b ∨ a.Clash profileId b := by
  cases a with
  | upload content =>
    cases b with
    | upload content' =>
      refine upload_uid_inj.trans (or_iff_right_of_imp ?_).symm
      rintro ⟨⟩
      exact ⟨rfl, rfl⟩
    | imported channel relativePath content' =>
      exact iff_of_false (upload_ne_imported channel relativePath content content')
        (not_or_intro (by rintro ⟨⟩) id)
    | downloaded uid => exact eq_comm.trans (or_iff_right (by rintro ⟨⟩)).symm
  | imported channel relativePath content =>
    cases b with
    | upload content' =>
      exact iff_of_false (upload_ne_imported channel relativePath content' content).symm
        (not_or_intro (by rintro ⟨⟩) id)
    | imported channel' relativePath' content' =>
      refine imported_uid_inj.trans (or_iff_right_of_imp ?_).symm
      rintro ⟨⟩
      exact ⟨rfl, rfl, rfl⟩
    | downloaded uid => exact eq_comm.trans (or_iff_right (by rintro ⟨⟩)).symm
  | downloaded uid =>
    cases b with
    | upload content => exact (or_iff_right (by rintro ⟨⟩)).symm
    | imported channel relativePath content => exact (or_iff_right (by rintro ⟨⟩)).symm
    | downloaded uid' =>
      refine (or_iff_right_of_imp ?_).symm
      rintro ⟨⟩
      rfl

end

end ItemIdentity

section
variable {host : Host} {place : UploadPlace}

theorem ItemWrite.itemUid_eq (hplace : place.sha1 = sha1Hex) (write : ItemWrite) :
    write.itemUid host place = (write.identity host).uid place.profileId := by
  cases write with
  | upload content =>
    change manualItemUid place content content.length = _
    unfold manualItemUid
    rw [hplace]
    rfl
  | imported file relativePath content =>
    change file.itemUid place relativePath content = _
    unfold FileImport.itemUid
    rw [hplace]
    rfl
  | downloaded payload info url =>
    unfold ItemWrite.itemUid ItemWrite.identity ItemIdentity.uid
    rfl

/-- The other identity of a row is as short. -/
theorem ItemWrite.itemId_short (write : ItemWrite) (h : (write.itemUid host place).length ≤ 255) :
    (write.itemId host place).length ≤ 255 := by
  cases write with
  | upload content => exact h
  | imported file relativePath content => exact h
  | downloaded payload info url =>
    unfold ItemWrite.itemId
    exact ItemIdentity.length_cut255 _

end

/-- Both identities of every row fit their columns, and what is different has different ones. -/
structure UidsFit (host : Host) (place : UploadPlace) (writes : Set ItemWrite) : Prop where
  short : ∀ write ∈ writes,
    (write.itemUid host place).length ≤ 255 ∧ (write.itemId host place).length ≤ 255
  distinct : ∀ write ∈ writes, ∀ write' ∈ writes, write.identity host ≠ write'.identity host →
    write.itemUid host place ≠ write'.itemUid host place

/-- The condition on what is written. -/
structure UidsSafe (host : Host) (profileId : String) (writes : Set ItemWrite) : Prop where
  fits : ∀ write ∈ writes, (write.identity host).Fits profileId
  apart : ∀ write ∈ writes, ∀ write' ∈ writes, write.identity host ≠ write'.identity host →
    ¬ (write.identity host).Clash profileId (write'.identity host)

theorem uidsFit_iff {host : Host} {place : UploadPlace} (hplace : place.sha1 = sha1Hex)
    (writes : Set ItemWrite) : UidsFit host place writes ↔ UidsSafe host place.profileId writes := by
  have hshort (write : ItemWrite) : (write.itemUid host place).length ≤ 255 ∧
      (write.itemId host place).length ≤ 255 ↔ (write.identity host).Fits place.profileId := by
    rw [and_iff_left_of_imp write.itemId_short, write.itemUid_eq hplace]
    exact ItemIdentity.fits_iff _
  have hdistinct (write write' : ItemWrite) (hne : write.identity host ≠ write'.identity host) :
      write.itemUid host place ≠ write'.itemUid host place ↔
        ¬ (write.identity host).Clash place.profileId (write'.identity host) := by
    rw [write.itemUid_eq hplace, write'.itemUid_eq hplace]
    exact (ItemIdentity.uid_eq_iff.trans (or_iff_right hne)).not
  constructor
  · intro h
    exact ⟨fun write hw => (hshort write).1 (h.short write hw), fun write hw write' hw' hne =>
      (hdistinct write write' hne).1 (h.distinct write hw write' hw' hne)⟩
  · intro h
    exact ⟨fun write hw => (hshort write).2 (h.fits write hw), fun write hw write' hw' hne =>
      (hdistinct write write' hne).2 (h.apart write hw write' hw' hne)⟩

/-- The generated keys of a profile fit their columns and tell its operations apart exactly in these cases. -/
theorem generated_keys_fit_iff {host : Host} {place : UploadPlace} (hsha : host.sha1 = sha1Text)
    (hplace : place.sha1 = sha1Hex) (requests : Set KeyRequest) (writes : Set ItemWrite) :
    KeysFit host place.profileId requests ∧ UidsFit host place writes ↔
      KeysSafe host place.profileId requests ∧ UidsSafe host place.profileId writes := by
  rw [keysFit_iff hsha, uidsFit_iff hplace]

/-- A host with the real digest. -/
def digestHost : Host :=
  { Host.plain with sha1 := sha1Text }

def digestPlace : UploadPlace where
  profileId := "default"
  outputRoot := Path.parse "/srv/downloads"
  sha1 := sha1Hex

/-- An update and the upload of a file of one byte. -/
theorem update_and_upload_fit :
    KeysFit digestHost "default" {.enqueueJob [("job_type", "update_downloads")] "token"} ∧
      UidsFit digestHost digestPlace {.upload [1]} := by
  have hsha : digestHost.sha1 = sha1Text := rfl
  have hplace : digestPlace.sha1 = sha1Hex := rfl
  refine (generated_keys_fit_iff hsha hplace _ _).2 ⟨⟨?_, ?_⟩, ⟨?_, ?_⟩⟩
  · rintro request rfl source hsource
    obtain rfl := Option.some.inj hsource
    change "default".length + "token".length ≤ 237
    decide
  · rintro request rfl request' rfl op op' hop hop' hne
    rw [hop] at hop'
    cases hop'
    exact absurd rfl hne
  · rintro write rfl
    change (toString 1).length ≤ 207
    decide
  · rintro write rfl write' rfl hne
    exact absurd rfl hne

theorem download_source {host : Host} {url : String} (hne : url ≠ "") (htrimmed : strip url = url) :
    (KeyRequest.download [("url", .string url)]).source host =
      some (.generated (.downloadUrl url)) := by
  have htext : strip (Json.str host.render (Json.orElse (Json.get "url" [("url", .string url)])
      (.string ""))) = url := by
    have htruthy : (Json.string url).truthy = true := bne_iff_ne.2 hne
    change strip (Json.str host.render (if (Json.string url).truthy then .string url else .string "")) = url
    rw [if_pos htruthy]
    exact htrimmed
  unfold KeyRequest.source
  dsimp only
  rw [htext, if_neg hne]
  rfl

/-- A URL of so many characters. -/
def urlOfLength (n : Nat) : String :=
  String.ofList (List.replicate n 'a')

theorem length_urlOfLength (n : Nat) : (urlOfLength n).length = n := by
  rw [urlOfLength, String.length_ofList, List.length_replicate]

theorem strip_urlOfLength (n : Nat) : strip (urlOfLength n) = urlOfLength n := by
  have htrimmed : Trimmed (List.replicate n 'a') := by
    constructor
    · intro c hc
      rw [List.eq_of_mem_replicate (List.mem_of_head? hc)]
      rfl
    · intro c hc
      rw [List.eq_of_mem_replicate (List.mem_of_getLast? hc)]
      rfl
  rw [strip, urlOfLength, String.toList_ofList, stripChars_of_trimmed htrimmed]

theorem download_not_safe {host : Host} {profileId : String} (h : 238 < profileId.length + n) (hpos : 0 < n) :
    ¬ KeysSafe host profileId {.download [("url", .string (urlOfLength n))]} := by
  intro hsafe
  have hne : urlOfLength n ≠ "" := by
    intro hempty
    have hlength := length_urlOfLength n
    rw [hempty] at hlength
    exact absurd hlength (Nat.ne_of_lt hpos)
  have hurl := hsafe.fits _ rfl _ (download_source hne (strip_urlOfLength n))
  change profileId.length + (urlOfLength n).length ≤ 238 at hurl
  rw [length_urlOfLength] at hurl
  omega

/-- `download` makes a key of any URL, however long: this one has three hundred characters. -/
theorem long_url_overflows_key : ¬ ∀ (requests : Set KeyRequest) (writes : Set ItemWrite),
    KeysFit digestHost "default" requests ∧ UidsFit digestHost digestPlace writes := by
  intro h
  have hsha : digestHost.sha1 = sha1Text := rfl
  have hsafe := (keysFit_iff hsha _).1 (h {.download [("url", .string (urlOfLength 300))]} ∅).1
  exact download_not_safe (by decide) (by decide) hsafe

end GetOffline
