import LiveMedia.Proofs.Provider.Bindings
import LiveMedia.Proofs.Stream.History
import LiveMedia.Proofs.Track.Unconfigured

set_option autoImplicit false

/-!
# Raw AAC units without a configuration

A raw AAC unit of a track without a configuration is not queued. If the track was declared without
one, the unit is counted and dropped, which its sender is not told, and it is a sign of life of its
channel. If the track was declared with one that cannot be used, the converter tries that one again
for every unit, and the unit is refused for it and is no sign of life.

## Main definitions

* `LiveMedia.Stream.Drops`, `LiveMedia.Stream.Refuses` — a packet is dropped or refused, and nothing
  else changes.
* `LiveMedia.Provider.Answers` — what the channels of a stream make of a packet.

## Main results

* `LiveMedia.Provider.ingest_unconfigured` — which units are dropped and which are refused.
* `LiveMedia.Provider.ingest_unconfigured_not_dropped` — a unit that is refused.
-/

namespace LiveMedia

open Aac

namespace Stream

variable {s : Stream} {p : Packet} {n : Normalizer} {e : MediaError}

/-! ## What a stream makes of a packet that is not normalized -/

/-- The packet is counted as one dropped before its configuration, and nothing else happens. -/
structure Drops (s : Stream) (p : Packet) : Prop where
  result : (s.ingest p).result = .ok ()
  stream : (s.ingest p).stream = { s with counters := s.counters.packetIn.dropBeforeConfig }

/-- The packet is counted as a failed conversion and refused, and nothing else happens. -/
structure Refuses (s : Stream) (p : Packet) (e : MediaError) : Prop where
  result : (s.ingest p).result = .error (.media e)
  stream : (s.ingest p).stream = { s with counters := s.counters.packetIn.conversionError }

/-- A packet that lacks a configuration is dropped. -/
lemma drops_of_missingConfig (hn : s.normalizers.get? p.track = some n)
    (h : outcome (Normalizer.normalize p) n = (.error .missingConfig, n)) : s.Drops p := by
  have hrun : (Normalizer.normalize p n).run = (.error .missingConfig, n) := h
  have hsame : s.normalizers.insert p.track n = s.normalizers := Table.insert_eq_self hn
  constructor <;> simp only [ingest, hn, hrun, hsame, dropBeforeConfig]

/-- A packet that is not normalized for another reason is refused. -/
lemma refuses_of_error (hn : s.normalizers.get? p.track = some n) (he : e ≠ .missingConfig)
    (h : outcome (Normalizer.normalize p) n = (.error e, n)) : s.Refuses p e := by
  have hrun : (Normalizer.normalize p n).run = (.error e, n) := h
  have hsame : s.normalizers.insert p.track n = s.normalizers := Table.insert_eq_self hn
  cases e with
  | missingConfig => exact absurd rfl he
  | _ => constructor <;> simp only [ingest, hn, hrun, hsame]

end Stream

namespace Provider

variable {p : Provider} {c : ChannelId} {sid : SessionId} {session : Session} {st : StreamId}
variable {s : Stream} {packet : Packet}

/-! ## What a channel makes of the answer of its stream -/

/-- A packet for a channel that publishes is handed to its stream; the stream's answer is the
answer of the channel. -/
lemma outcome_ingest (hfind : p.find? c = some (sid, session))
    (hpublished : p.publishedStream? session = some (st, s)) :
    let r := s.ingest packet
    let delivered := (p.modifyStream st fun _ => r.stream).report r.warnings
    outcome (ingest c packet) p =
      match r.result with
      | .ok () => (.ok (), delivered.accept sid packet.size)
      | .error e => (.error (.stream e), delivered.reject sid) := by
  intro r delivered
  unfold ingest
  rw [outcome_bind, outcome_get]
  dsimp only
  rw [hfind]
  dsimp only
  rw [hpublished]
  dsimp only
  cases hr : (s.ingest packet).result <;> rfl

/-- Every channel that publishes the stream gives the sender of the packet this answer, with this
effect on its session at the time. -/
def Answers (s : Stream) (packet : Packet) (answer : Except ProviderError Unit)
    (effect : Time → Session → Session) : Prop :=
  ∀ (p : Provider) (c : ChannelId) (sid : SessionId) (session : Session) (st : StreamId),
    p.find? c = some (sid, session) → p.publishedStream? session = some (st, s) →
      (outcome (ingest c packet) p).1 = answer ∧
        (outcome (ingest c packet) p).2.streams.get? st = some (s.ingest packet).stream ∧
        (outcome (ingest c packet) p).2.sessions.get? sid = some (effect p.now session)

/-- A packet that the stream accepts is a sign of life. -/
lemma answers_of_ok (h : (s.ingest packet).result = .ok ()) :
    Answers s packet (.ok ()) fun now session =>
      { session with
        lastReceived := now
        counters := session.counters.packet packet.size } := by
  intro p c sid session st hfind hpublished
  have hsession := (find?_eq_some_iff.1 hfind).2
  have hstream := get?_of_publishedStream? hpublished
  rw [outcome_ingest hfind hpublished, h]
  refine ⟨rfl, ?_, ?_⟩
  · show (p.streams.modify st _).get? st = _
    rw [Store.get?_modify, if_pos rfl, hstream]
    rfl
  · show ((p.sessions.modify sid _).modify sid _).get? sid = _
    rw [Store.get?_modify, if_pos rfl, Store.get?_modify, if_pos rfl, hsession]
    rfl

/-- A packet that the stream refuses is no sign of life. -/
lemma answers_of_error {e : StreamError} (h : (s.ingest packet).result = .error e) :
    Answers s packet (.error (.stream e)) fun _ session =>
      { session with counters := session.counters.reject } := by
  intro p c sid session st hfind hpublished
  have hsession := (find?_eq_some_iff.1 hfind).2
  have hstream := get?_of_publishedStream? hpublished
  rw [outcome_ingest hfind hpublished, h]
  refine ⟨rfl, ?_, ?_⟩
  · show (p.streams.modify st _).get? st = _
    rw [Store.get?_modify, if_pos rfl, hstream]
    rfl
  · show (p.sessions.modify sid _).get? sid = _
    rw [Store.get?_modify, if_pos rfl, hsession]
    rfl

/-! ## Tracks without a configuration -/

open LiveMedia.Stream

/-- **Raw AAC units of a track without a configuration are dropped or refused.** Take any history of
a stream and a track that is declared after it, such that neither the declaration nor any sequence
header since then brings a usable configuration. If the declaration brings none at all, a raw AAC
unit on the track is counted and dropped without changing anything else, and the channel that
delivers it is told nothing and has given a sign of life. If it brings one that cannot be used, the
unit is counted as a failed conversion and refused for what is wrong with that one, and the channel
has given no sign of life.

**Proof sketch.** The track has the normalizer that the packets ingested on it since its declaration
have left (`Stream.accounted_historyOf`), and this one has no configuration
(`Normalizer.unconfigured_normalizeAll`). So it refuses the unit and stays as it is
(`Normalizer.outcome_normalize_of_unconfigured`), which its stream tells the channel. -/
theorem ingest_unconfigured (key : StreamKey) (infos : List TrackInfo) (ops : List Stream.Op)
    (packet : Packet) {info : TrackInfo} {since : List Event}
    (hdeclared : sinceDeclared packet.track (historyOf key infos ops).1 = some (info, since))
    (hheaders : ∀ q ∈ ingestedOn packet.track since, ¬q.ConfiguresAac)
    (hextra : ∀ data ∈ info.extradata, ¬AudioConfig.Usable data)
    (hkind : packet.kind = .raw)
    (hformat : packet.format = .aacLatm ∨ packet.format = .aacRaw) :
    let s := (historyOf key infos ops).2
    (info.extradata = none →
      s.Drops packet ∧
        Answers s packet (.ok ()) fun now session =>
          { session with
            lastReceived := now
            counters := session.counters.packet packet.size }) ∧
    ∀ data, info.extradata = some data →
      (AudioConfig.refusal data = .truncated ∨
        AudioConfig.refusal data = .invalid .invalidAudioConfig) ∧
      s.Refuses packet (AudioConfig.refusal data) ∧
      Answers s packet (.error (.stream (.media (AudioConfig.refusal data)))) fun _ session =>
        { session with counters := session.counters.reject } := by
  intro s
  have haccounted := accounted_historyOf key infos ops packet.track
  rw [hdeclared] at haccounted
  obtain ⟨hn, -⟩ := haccounted
  have hunconfigured := Normalizer.unconfigured_normalizeAll hextra hheaders
  have hrefused := Normalizer.outcome_normalize_of_unconfigured hextra hunconfigured hkind hformat
  constructor
  · intro hnone
    rw [hnone] at hrefused
    have hdrops : s.Drops packet := drops_of_missingConfig hn hrefused
    exact ⟨hdrops, answers_of_ok hdrops.result⟩
  · intro data hdata
    rw [hdata] at hrefused
    have hreason := AudioConfig.refusal_eq data
    have hmissing : AudioConfig.refusal data ≠ .missingConfig := by
      rcases hreason with h | h <;> rw [h] <;> decide
    have hrefuses : s.Refuses packet (AudioConfig.refusal data) :=
      refuses_of_error hn hmissing hrefused
    exact ⟨hreason, hrefuses, answers_of_error hrefuses.result⟩

/-- A packet of an AAC track. -/
def aacPacket (track : TrackId) (kind : PacketKind) (payload : Bytes) : Packet :=
  { Packet.blank track 0 with format := .aacLatm, kind, payload }

/-- The session of a channel that publishes the first stream of its provider. -/
def publisher : Session where
  channel := 5
  createdAt := 0
  lastReceived := 10
  timeout := 3000
  binding := some ⟨0, 0⟩

/-- A provider with one channel, which publishes a stream. -/
def withPublisher (s : Stream) : Provider where
  name := "media"
  now := 40
  streams := ⟨[s]⟩
  sessions := ⟨[publisher]⟩
  channels := Table.empty.insert publisher.channel 0

/-- Of two tracks, one declared without a configuration and one with a configuration that ends too
early, the first is sent a header that it cannot use. -/
theorem ingest_unconfigured_two_tracks :
    let infos : List TrackInfo := [⟨3, .millis, .aacLatm, none⟩, ⟨7, .millis, .aacRaw, some [0x12]⟩]
    let ops : List Stream.Op := [.ingest (aacPacket 3 .sequenceHeader [0x02, 0x10])]
    let s := (historyOf ⟨"live", "cam"⟩ infos ops).2
    let unit (track : TrackId) := aacPacket track .raw [0x21, 0x00]
    let after (track : TrackId) := outcome (ingest 5 (unit track)) (withPublisher s)
    s.Drops (unit 3) ∧ (after 3).1 = .ok () ∧
      ((after 3).2.sessions.get? 0).map Session.lastReceived = some 40 ∧
    s.Refuses (unit 7) .truncated ∧ (after 7).1 = .error (.stream (.media .truncated)) ∧
      ((after 7).2.sessions.get? 0).map Session.lastReceived = some 10 := by
  intro infos ops s unit after
  have hfirst : sinceDeclared 3 (historyOf ⟨"live", "cam"⟩ infos ops).1 =
      some (⟨3, .millis, .aacLatm, none⟩, (historyOf ⟨"live", "cam"⟩ infos ops).1.drop 1) := by
    decide
  have hsecond : sinceDeclared 7 (historyOf ⟨"live", "cam"⟩ infos ops).1 =
      some (⟨7, .millis, .aacRaw, some [0x12]⟩,
        (historyOf ⟨"live", "cam"⟩ infos ops).1.drop 2) := by
    decide
  obtain ⟨hdrops, hanswers⟩ := (ingest_unconfigured _ infos ops (unit 3) hfirst
    (by decide +kernel) (by decide) rfl (.inl rfl)).1 rfl
  obtain ⟨-, hrefuses, hanswers'⟩ := (ingest_unconfigured _ infos ops (unit 7) hsecond
    (by decide) (by decide +kernel) rfl (.inl rfl)).2 [0x12] rfl
  obtain ⟨hok, -, halive⟩ := hanswers (withPublisher s) 5 0 publisher 0 rfl rfl
  obtain ⟨herror, -, hsilent⟩ := hanswers' (withPublisher s) 5 0 publisher 0 rfl rfl
  exact ⟨hdrops, hok, congrArg (Option.map Session.lastReceived) halive, hrefuses, herror,
    congrArg (Option.map Session.lastReceived) hsilent⟩

/-- **Not every raw AAC unit of a track without a configuration is dropped.** A configuration of the
declaration that ends too early is not ignored: the unit is refused for it. -/
theorem ingest_unconfigured_not_dropped :
    ¬ ∀ (key : StreamKey) (infos : List TrackInfo) (ops : List Stream.Op) (packet : Packet)
      (info : TrackInfo) (since : List Event),
        sinceDeclared packet.track (historyOf key infos ops).1 = some (info, since) →
        (∀ q ∈ ingestedOn packet.track since, ¬q.ConfiguresAac) →
        (∀ data ∈ info.extradata, ¬AudioConfig.Usable data) →
        packet.kind = .raw → packet.format = .aacLatm →
        ((historyOf key infos ops).2.ingest packet).result = .ok () := by
  intro h
  let info : TrackInfo := ⟨7, .millis, .aacLatm, some [0x12]⟩
  have hok := h ⟨"live", "cam"⟩ [info] [] (aacPacket 7 .raw [0x21, 0x00]) info [] (by decide)
    (by decide) (by decide +kernel) rfl rfl
  exact absurd hok (by decide +kernel)

end Provider

end LiveMedia
