import ReportPress.Asset.Resolver
import ReportPress.Proofs.Effect
/-!
What asking for an image comes to, and who is asked. Octets are looked at as they are; of other values only texts name
a source, and a source decides by itself whether anyone is asked: the logo and data in the name need nobody, an address
of the web only the web, and any other path only the store. Whoever is asked may do as it likes: the request is made in
any monad, so that besides an answer it may have any effect, an error that is no answer among them.

- `seekSource_cases`, `seek_name`: the outcome is settled, or there is one request to make, and what that may be.
- `prepare_settles`, `fetched_settles`: octets settle on an image or on a fault of the asset just if the decoder has no
  fault of its own to tell and they are not to be scaled down into a square without an edge.
- `load_outcome`: all of this for whatever an image is asked for by. `overlarge_refused`: octets that are not plainly
  decoded. `edgeless_refused`: settings that ask for images without an edge.
-/

namespace ReportPress

/-! ## Names of sources -/

namespace Source

/-- a text that starts like an address of the web -/
def IsAddress (t : String) : Prop := "http://".toList <+: t.toList ∨ "https://".toList <+: t.toList

theorem webSchemes_any (t : String) : webSchemes.any (·.isPrefixOf t.toList) = true ↔ IsAddress t := by
  simp [webSchemes, IsAddress]

/-- what a name has to be for its source: the name without the blanks around it, and of no earlier class -/
theorem ofName_eq_some {name : String} {source : Source} (h : ofName name = some source) :
    match source with
    | .logo => Text.trim name = logoWord
    | .inline uri => uri = Text.trim name ∧ DataUri.scheme <+: uri.toList
    | .web url => url = Text.trim name ∧ IsAddress url
    | .store path => path = Text.trim name ∧ path ≠ "" ∧ path ≠ logoWord ∧ ¬ DataUri.scheme <+: path.toList ∧
        ¬ IsAddress path := by
  unfold ofName at h
  dsimp only at h
  split at h
  · cases h
  · next hblank =>
    split at h
    · next hlogo =>
      cases h
      exact hlogo
    · next hlogo =>
      split at h
      · next hdata =>
        cases h
        exact ⟨rfl, List.isPrefixOf_iff_prefix.1 hdata⟩
      · next hdata =>
        split at h
        · next hweb =>
          cases h
          exact ⟨rfl, (webSchemes_any _).1 hweb⟩
        · next hweb =>
          cases h
          refine ⟨rfl, hblank, hlogo, ?_, ?_⟩
          · exact fun hprefix => hdata (List.isPrefixOf_iff_prefix.2 hprefix)
          · exact fun haddress => hweb ((webSchemes_any _).2 haddress)

end Source

/-! ## Octets -/

/-- the outcome is an image or a fault of the asset, and nothing else -/
def Settles (r : Except Failure PreparedImage) : Prop := (∃ image, r = .ok image) ∨ ∃ fault, r = .error (.asset fault)

/-- the decoder reads the octets, or finds them just unreadable: it has no fault to tell in words of its own -/
def PlainlyDecoded (octets : ByteArray) : Prop := ∀ fault, Picture.ofOctets octets = .error fault → fault = .unreadable

theorem Settles.asset (fault : AssetFault) : Settles (.error (.asset fault)) := .inr ⟨fault, rfl⟩

/-- the octets of a picture that can be scaled down: it has dots, in colours that can be made plain -/
def Scalable (octets : ByteArray) : Prop :=
  ∃ p, Picture.ofOctets octets = .ok p ∧ p.isFlattenable = true ∧ 0 < max p.width p.height

namespace PreparedImage

/-- a size is no good for a square only if the square has no edge or less -/
theorem scaled_error {size : Nat × Nat} {square : Option Int} {fault : ImageFault}
    (h : scaled size square = .error fault) : fault = .unreadable ∨ fault = .noEdge ∧ square = some 0 := by
  unfold scaled at h
  split at h
  · cases h
  · next edge =>
    split at h
    · cases h
      exact .inl rfl
    · split at h
      · next hzero =>
        cases h
        exact .inr ⟨rfl, congrArg some hzero⟩
      · cases h

theorem recode_error {p : Picture} {square : Option Int} {fault : ImageFault} (h : recode p square = .error fault) :
    fault = .unreadable ∨ fault = .noEdge ∧ square = some 0 ∧ p.isFlattenable = true := by
  unfold recode at h
  cases hflat : p.isFlattenable with
  | false =>
    rw [hflat] at h
    cases h
    exact .inl rfl
  | true =>
    rw [hflat] at h
    rcases Effect.except_bind_eq_error h with h | ⟨_, -, h⟩
    · cases h
    rcases Effect.except_bind_eq_error h with h | ⟨size, -, h⟩
    · exact (scaled_error h).imp id fun hedge => ⟨hedge.1, hedge.2, rfl⟩
    · dsimp only at h
      split at h
      · cases h
        exact .inl rfl
      · cases h

/-- a picture that was read is at most no good for a page, but for a bound of zero -/
theorem ofPicture_error {p : Picture} {octets : ByteArray} {bound : Option Int} {convert : Bool} {fault : ImageFault}
    (h : ofPicture p octets bound convert = .error fault) :
    fault = .unreadable ∨
      fault = .noEdge ∧ bound = some 0 ∧ p.isFlattenable = true ∧ 0 < max p.width p.height := by
  unfold ofPicture at h
  dsimp only at h
  split at h
  · cases h
  · split at h
    · cases h
    · refine (recode_error h).imp id fun ⟨hfault, hsquare, hflat⟩ => ?_
      obtain ⟨hbound, hdots⟩ := Option.filter_eq_some_iff.1 hsquare
      have hlonger : 0 < max (p.width : Int) p.height := of_decide_eq_true hdots
      exact ⟨hfault, hbound, hflat, by omega⟩

/-- a picture that can be scaled down is not, with a bound of zero -/
theorem ofPicture_edgeless {p : Picture} (hflat : p.isFlattenable = true) (hdots : 0 < max p.width p.height)
    (octets : ByteArray) : ofPicture p octets (some 0) true = .error .noEdge := by
  have hlonger : 0 < max (p.width : Int) p.height := by omega
  have hsquare : (some (0 : Int)).filter (fun edge => decide (edge < max (p.width : Int) p.height)) = some 0 := by
    rw [Option.filter_some, decide_eq_true hlonger, if_pos rfl]
  unfold ofPicture
  dsimp only
  rw [hsquare, if_neg (by simp), if_neg (by simp), recode, hflat]
  rfl

/-- **Octets** settle just if they are plainly decoded and their picture is not to be scaled down into a square without
an edge -/
theorem prepare_settles (octets : ByteArray) (bound : Option Int) (convert : Bool) :
    Settles (prepare octets bound convert) ↔ PlainlyDecoded octets ∧
      ∀ p, Picture.ofOctets octets = .ok p → ofPicture p octets bound convert ≠ .error .noEdge := by
  unfold prepare PlainlyDecoded
  cases hpicture : Picture.ofOctets octets with
  | error fault =>
    show Settles (.error (.ofImage fault)) ↔ _
    rw [and_iff_left (show ∀ p, Except.error fault = .ok p → _ from nofun)]
    constructor
    · rintro (⟨image, h⟩ | ⟨assetFault, h⟩) other hother
      · cases h
      · cases hother
        cases fault <;> first | rfl | cases h
    · intro hplain
      rw [hplain fault rfl]
      exact .asset _
  | ok picture =>
    have hbind : (Except.ok picture >>= fun p => ofPicture p octets bound convert) =
        ofPicture picture octets bound convert := rfl
    have hnone : ∀ fault, (Except.ok picture : Except ImageFault Picture) = .error fault → fault = .unreadable := nofun
    rw [hbind, and_iff_right hnone]
    cases hmade : ofPicture picture octets bound convert with
    | ok image =>
      refine iff_of_true (.inl ⟨image, rfl⟩) ?_
      rintro p ⟨⟩ hedge
      rw [hmade] at hedge
      cases hedge
    | error fault =>
      rcases ofPicture_error hmade with rfl | ⟨rfl, -⟩
      · refine iff_of_true (.asset _) ?_
        rintro p ⟨⟩ hedge
        rw [hmade] at hedge
        cases hedge
      · refine iff_of_false ?_ fun h => h picture rfl hmade
        rintro (⟨image, h⟩ | ⟨assetFault, h⟩)
        · cases h
        · cases h

end PreparedImage

/-- a bitmap of 19968 by 19968 pixels, of which only the head is there -/
def overlarge : ByteArray :=
  ⟨#[0x42, 0x4D, 0, 0, 0, 0, 0, 0, 0, 0, 54, 0, 0, 0, 40, 0, 0, 0, 0, 0x4E, 0, 0, 0, 0x4E, 0, 0, 1, 0, 24, 0, 0, 0, 0,
    0, 0, 0, 0, 0, 0, 0, 0, 0, 0, 0, 0, 0, 0, 0, 0, 0, 0, 0, 0, 0]⟩

/-- a bitmap of one dot -/
def oneDot : ByteArray :=
  ⟨#[0x42, 0x4D, 58, 0, 0, 0, 0, 0, 0, 0, 54, 0, 0, 0, 40, 0, 0, 0, 1, 0, 0, 0, 1, 0, 0, 0, 1, 0, 24, 0, 0, 0, 0, 0, 4,
    0, 0, 0, 0, 0, 0, 0, 0, 0, 0, 0, 0, 0, 0, 0, 0, 0, 0, 0, 0, 0, 0, 0]⟩

/-- images that are far too large are turned away in words of their own, before the lack of their pixels is found -/
theorem overlarge_refused (bound : Option Int) (convert : Bool) :
    ¬ Settles (PreparedImage.prepare overlarge bound convert) := by
  rw [PreparedImage.prepare_settles]
  intro hplain
  cases hplain.1 (.tooManyPixels 398721024) rfl

/-- a text that holds no data is a fault of the asset -/
theorem DataUri.decode_error {uri : String} {f : Failure} (h : DataUri.decode uri = .error f) :
    ∃ fault, f = .asset fault := by
  unfold DataUri.decode at h
  dsimp only at h
  split at h
  · cases h
    exact ⟨_, rfl⟩
  · split at h
    · cases h
      exact ⟨_, rfl⟩
    · split at h
      · cases h
        exact ⟨_, rfl⟩
      · split at h
        · cases h
        · cases h
          exact ⟨_, rfl⟩

namespace Assets

/-! ## Answers -/

/-- an answer gives octets only if it has some; whatever else it is makes a fault of the asset -/
theorem received_cases (name : String) (r : Reply) :
    (∃ octets, r = .content octets ∧ octets.isEmpty = false ∧ received name r = .ok octets) ∨
      (∃ fault, received name r = .error (.asset fault)) ∧
        ∀ octets, r = .content octets → octets.isEmpty = true := by
  unfold received
  cases r with
  | silence => exact .inr ⟨⟨_, rfl⟩, nofun⟩
  | failed f => cases f <;> exact .inr ⟨⟨_, rfl⟩, nofun⟩
  | content octets =>
    dsimp only
    by_cases hempty : octets.isEmpty = true
    · rw [if_pos hempty]
      refine .inr ⟨⟨_, rfl⟩, ?_⟩
      rintro _ ⟨⟩
      exact hempty
    · rw [if_neg hempty]
      exact .inl ⟨octets, rfl, Bool.eq_false_iff.2 hempty, rfl⟩

/-- octets that are taken as they are settle just if they are plainly decoded -/
theorem given_settles (octets : ByteArray) : Settles (given octets) ↔ PlainlyDecoded octets := by
  unfold given PreparedImage.ofOctets
  rw [PreparedImage.prepare_settles]
  refine and_iff_left fun p _ hedge => ?_
  rcases PreparedImage.ofPicture_error hedge with hother | ⟨-, hbound, -⟩
  · cases hother
  · cases hbound

/-- **An answer** settles just if the octets in it, if there are any, are plainly decoded and are not to be scaled down
into a square without an edge -/
theorem fetched_settles (a : Assets) (name : String) (r : Reply) :
    Settles (a.fetched name r) ↔ ∀ octets, r = .content octets → octets.isEmpty = false →
      PlainlyDecoded octets ∧ ¬ (a.settings.maxImagePx = 0 ∧ Scalable octets) := by
  unfold fetched
  rcases received_cases name r with ⟨octets, rfl, hempty, hreceived⟩ | ⟨⟨fault, hreceived⟩, hnone⟩
  · rw [hreceived]
    show Settles (PreparedImage.prepare octets _ true) ↔ _
    have hedgeless : (∀ p, Picture.ofOctets octets = .ok p →
        PreparedImage.ofPicture p octets (some a.settings.maxImagePx) true ≠ .error .noEdge) ↔
          ¬ (a.settings.maxImagePx = 0 ∧ Scalable octets) := by
      constructor
      · rintro hno ⟨hzero, p, hp, hflat, hdots⟩
        rw [hzero] at hno
        exact hno p hp (PreparedImage.ofPicture_edgeless hflat hdots octets)
      · rintro hno p hp hedge
        rcases PreparedImage.ofPicture_error hedge with hother | ⟨-, hzero, hscales⟩
        · cases hother
        · exact hno ⟨Option.some.inj hzero, p, hp, hscales⟩
    rw [PreparedImage.prepare_settles, hedgeless]
    constructor
    · rintro hplain _ ⟨⟩ -
      exact hplain
    · exact fun hplain => hplain octets rfl hempty
  · rw [hreceived]
    refine iff_of_true (.asset fault) ?_
    intro octets hoctets hempty
    rw [hnone octets hoctets] at hempty
    cases hempty

/-- data in a name settle just if they are plainly decoded -/
theorem inline_settles (uri : String) :
    Settles (DataUri.decode uri >>= given) ↔ ∀ octets, DataUri.decode uri = .ok octets → PlainlyDecoded octets := by
  cases hdecode : DataUri.decode uri with
  | error f =>
    obtain ⟨fault, rfl⟩ := DataUri.decode_error hdecode
    exact iff_of_true (.asset fault) nofun
  | ok octets =>
    show Settles (given octets) ↔ _
    rw [given_settles]
    constructor
    · rintro hplain _ ⟨⟩
      exact hplain
    · exact fun h => h octets rfl

/-! ## Requests -/

/-- what may be asked: the web for an address of the web, if it may be asked at all, and the store, if there is one, for
what is neither the word for the logo nor data nor an address -/
def Permits (a : Assets) : Request → Prop
  | .web url timeout => Source.IsAddress url ∧ a.settings.allowRemote = true ∧ timeout = a.settings.timeout
  | .store path => a.fetchers.store.isSome = true ∧ path ≠ "" ∧ path ≠ logoWord ∧ ¬ DataUri.scheme <+: path.toList ∧
      ¬ Source.IsAddress path

/-- octets that are decoded without asking anyone: they were given as they are, or they are in the name -/
inductive Supplies : Wanted → ByteArray → Prop
  | given (b : ByteArray) : Supplies (.octets b) b
  | inline {name uri : String} {b : ByteArray} (hname : Source.ofName name = some (.inline uri))
      (huri : DataUri.decode uri = .ok b) : Supplies (.value (.string name)) b

theorem Supplies.octets {name : String} {b : ByteArray} (h : Supplies (.value (.string name)) b) :
    ∃ uri, Source.ofName name = some (.inline uri) ∧ DataUri.decode uri = .ok b := by
  cases h with
  | inline hname huri => exact ⟨_, hname, huri⟩

/-- **A source** is settled at once, and only data in the name may fail to settle; or the web is asked, which is allowed,
or the store, which there is -/
theorem seekSource_cases (a : Assets) (source : Source) :
    (∃ r, a.seekSource source = .settled r ∧ (Settles r ↔
        ∀ uri octets, source = .inline uri → DataUri.decode uri = .ok octets → PlainlyDecoded octets)) ∨
      (∃ url, source = .web url ∧ a.settings.allowRemote = true ∧
        a.seekSource source = .asks (.web url a.settings.timeout)) ∨
      ∃ path, source = .store path ∧ a.fetchers.store.isSome = true ∧ a.seekSource source = .asks (.store path) := by
  unfold seekSource
  cases source with
  | logo =>
    dsimp only
    cases a.logo with
    | none => exact .inl ⟨_, rfl, iff_of_true (.asset _) nofun⟩
    | some image => exact .inl ⟨_, rfl, iff_of_true (.inl ⟨image, rfl⟩) nofun⟩
  | inline uri =>
    refine .inl ⟨_, rfl, (inline_settles uri).trans ⟨?_, fun h octets => h uri octets rfl⟩⟩
    rintro h _ octets ⟨⟩
    exact h octets
  | web url =>
    by_cases hallow : a.settings.allowRemote = true
    · exact .inr (.inl ⟨url, rfl, hallow, if_pos hallow⟩)
    · exact .inl ⟨_, if_neg hallow, iff_of_true (.asset _) nofun⟩
  | store path =>
    by_cases hstore : a.fetchers.store.isSome = true
    · exact .inr (.inr ⟨path, rfl, hstore, if_pos hstore⟩)
    · exact .inl ⟨_, if_neg hstore, iff_of_true (.asset _) nofun⟩

/-- **A name** is settled at once, or there is one request to make for it, without the blanks around it -/
theorem seek_name (a : Assets) (name : String) :
    (∃ r, a.seek (.value (.string name)) = .settled r ∧
        (Settles r ↔ ∀ octets, Supplies (.value (.string name)) octets → PlainlyDecoded octets)) ∨
      ∃ request, a.seek (.value (.string name)) = .asks request ∧ request.name = Text.trim name ∧
        a.Permits request := by
  cases hname : Source.ofName name with
  | none =>
    have hseek : a.seek (.value (.string name)) = .settled (.error (.asset .emptySource)) := by simp only [seek, hname]
    refine .inl ⟨_, hseek, iff_of_true (.asset _) fun octets hsupplies => ?_⟩
    obtain ⟨uri, huri, -⟩ := hsupplies.octets
    rw [hname] at huri
    cases huri
  | some source =>
    have hseek : a.seek (.value (.string name)) = a.seekSource source := by simp only [seek, hname]
    have hsource := Source.ofName_eq_some hname
    rw [hseek]
    rcases a.seekSource_cases source with ⟨r, hr, hsettles⟩ | ⟨url, rfl, hallow, hasks⟩ | ⟨path, rfl, hstore, hasks⟩
    · refine .inl ⟨r, hr, hsettles.trans ⟨fun h octets hsupplies => ?_, fun h uri octets huri hdecode => ?_⟩⟩
      · obtain ⟨uri, huri, hdecode⟩ := hsupplies.octets
        rw [hname] at huri
        exact h uri octets (Option.some.inj huri) hdecode
      · subst huri
        exact h octets (.inline hname hdecode)
    · exact .inr ⟨_, hasks, hsource.1, hsource.2, hallow, rfl⟩
    · exact .inr ⟨_, hasks, hsource.1, hstore, hsource.2⟩

/-- **Asking for an image**, by octets or by any value: it is settled without asking anyone, and then on an image or on a
fault of the asset just if the octets that are decoded are plainly decoded; or one request is made, for the name without
the blanks around it, and only one that is permitted. What comes of an answer to it is an image or a fault of the asset
as well, just if the octets in it are plainly decoded and, should the settings ask for images without an edge, are not
those of a picture that can be scaled down. Nothing else comes of it but what comes of making the request itself. -/
theorem load_outcome {m : Type → Type} [Monad m] (a : Assets) (ask : Request → m Reply) (w : Wanted) :
    (∃ r, a.loadBy ask w = pure r ∧
        (((∃ image, r = .ok image) ∨ ∃ fault, r = .error (.asset fault)) ↔
          ∀ octets, Supplies w octets → PlainlyDecoded octets)) ∨
      ∃ name request, w = .value (.string name) ∧ request.name = Text.trim name ∧ a.Permits request ∧
        a.loadBy ask w = (do return a.fetched request.name (← ask request)) ∧
        ∀ reply, ((∃ image, a.fetched request.name reply = .ok image) ∨
            ∃ fault, a.fetched request.name reply = .error (.asset fault)) ↔
          ∀ octets, reply = .content octets → octets.isEmpty = false →
            PlainlyDecoded octets ∧ ¬ (a.settings.maxImagePx = 0 ∧ Scalable octets) := by
  cases w with
  | octets b =>
    refine .inl ⟨_, rfl, (given_settles b).trans ⟨fun hplain octets hsupplies => ?_, fun h => h b (.given b)⟩⟩
    cases hsupplies
    exact hplain
  | value v =>
    cases v with
    | string name =>
      unfold loadBy
      rcases a.seek_name name with ⟨r, hseek, hsettles⟩ | ⟨request, hseek, hname, hpermits⟩
      · rw [hseek]
        exact .inl ⟨r, rfl, hsettles⟩
      · rw [hseek]
        exact .inr ⟨name, request, rfl, hname, hpermits, rfl, a.fetched_settles request.name⟩
    | _ => exact .inl ⟨_, rfl, iff_of_true (.inr ⟨_, rfl⟩) nofun⟩

/-- with settings that ask for images without an edge, a picture of one dot comes to a failure that is no fault of the
asset -/
theorem edgeless_refused :
    let a : Assets := { settings := { maxImagePx := 0 }, fetchers := { web := fun _ => .content oneDot } }
    (a.loadBy a.ask (.value (.string "https://dot"))).run [] =
        (.error (.image .noEdge), [.web "https://dot" a.settings.timeout]) ∧
      ¬ ((∃ image, a.fetched "https://dot" (.content oneDot) = .ok image) ∨
        ∃ fault, a.fetched "https://dot" (.content oneDot) = .error (.asset fault)) := by
  refine ⟨rfl, ?_⟩
  rintro (⟨image, h⟩ | ⟨fault, h⟩) <;> cases h

end Assets

end ReportPress
