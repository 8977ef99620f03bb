import Mathlib.Data.Set.Insert
import UngulaNet.Comm.EspNowTransport

/-!
# The peer set of a transport

`MaintainsPeers Ready` says that, in the states `Ready`, peers are added and removed
without error and nothing else touches them. `EspNowTransport` does so once it is
initialised, on an ESP-IDF that does.
-/

namespace UngulaNet.Comm
set_option autoImplicit false

/-- `addPeer` and `removePeer` succeed and maintain a set. -/
structure MaintainsPeers {σ : Type} [ITransport σ] (Ready : σ → Prop) : Prop where
  addPeer : ∀ {t : σ}, Ready t → ∀ mac ch, (ITransport.addPeer t mac ch).1 = .OK ∧
    Ready (ITransport.addPeer t mac ch).2 ∧ ∀ m,
      ITransport.hasPeer (ITransport.addPeer t mac ch).2 m = true ↔
        m = mac ∨ ITransport.hasPeer t m = true
  removePeer : ∀ {t : σ}, Ready t → ∀ mac, (ITransport.removePeer t mac).1 = .OK ∧
    Ready (ITransport.removePeer t mac).2 ∧ ∀ m,
      ITransport.hasPeer (ITransport.removePeer t mac).2 m = true ↔
        m ≠ mac ∧ ITransport.hasPeer t m = true
  send : ∀ {t : σ}, Ready t → ∀ dst data, Ready (ITransport.send t dst data).2 ∧ ∀ m,
    ITransport.hasPeer (ITransport.send t dst data).2 m = ITransport.hasPeer t m

namespace Transport
variable {σ : Type} [ITransport σ] {Ready : σ → Prop} {t : Transport σ}

def peers (t : Transport σ) : Set MacAddress := {m | ITransport.hasPeer t.dev m = true}

instance (t : Transport σ) (m : MacAddress) : Decidable (m ∈ t.peers) :=
  inferInstanceAs (Decidable (ITransport.hasPeer t.dev m = true))

theorem peers_addPeer (h : MaintainsPeers Ready) (ht : Ready t.dev) (mac : MacAddress)
    (ch : UInt8) : (t.addPeer mac ch).peers = insert mac t.peers := by
  ext m
  exact (h.addPeer ht mac ch).2.2 m

theorem ready_addPeer (h : MaintainsPeers Ready) (ht : Ready t.dev) (mac : MacAddress)
    (ch : UInt8) : Ready (t.addPeer mac ch).dev := (h.addPeer ht mac ch).2.1

theorem peers_removePeer (h : MaintainsPeers Ready) (ht : Ready t.dev) (mac : MacAddress) :
    (t.removePeer mac).peers = t.peers \ {mac} := by
  ext m
  rw [Set.mem_sdiff, Set.mem_singleton_iff, and_comm]
  exact (h.removePeer ht mac).2.2 m

theorem ready_removePeer (h : MaintainsPeers Ready) (ht : Ready t.dev) (mac : MacAddress) :
    Ready (t.removePeer mac).dev := (h.removePeer ht mac).2.1

theorem peers_send (h : MaintainsPeers Ready) (ht : Ready t.dev) (dst : MacAddress)
    (data : List UInt8) : (t.send dst data).peers = t.peers := by
  ext m
  exact Bool.eq_iff_iff.mp ((h.send ht dst data).2 m)

theorem ready_send (h : MaintainsPeers Ready) (ht : Ready t.dev) (dst : MacAddress)
    (data : List UInt8) : Ready (t.send dst data).dev := (h.send ht dst data).1

theorem peers_addPeer_send (h : MaintainsPeers Ready) (ht : Ready t.dev) (mac : MacAddress)
    (ch : UInt8) (data : List UInt8) :
    ((t.addPeer mac ch).send mac data).peers = insert mac t.peers ∧
      Ready ((t.addPeer mac ch).send mac data).dev := by
  have hadded := ready_addPeer h ht mac ch
  exact ⟨by rw [peers_send h hadded, peers_addPeer h ht], ready_send h hadded mac data⟩

end Transport

/-- The peer list of ESP-IDF as long as it has room. -/
class EspIdfPeers (ρ : Type) [EspIdf ρ] : Prop where
  add_peer : ∀ (r : ρ) mac c, EspIdf.esp_now_is_peer_exist r mac = false →
    (EspIdf.esp_now_add_peer r mac c).1 = true ∧ ∀ m,
      EspIdf.esp_now_is_peer_exist (EspIdf.esp_now_add_peer r mac c).2 m = true ↔
        m = mac ∨ EspIdf.esp_now_is_peer_exist r m = true
  mod_peer : ∀ (r : ρ) mac c, EspIdf.esp_now_is_peer_exist r mac = true →
    (EspIdf.esp_now_mod_peer r mac c).1 = true ∧ ∀ m,
      EspIdf.esp_now_is_peer_exist (EspIdf.esp_now_mod_peer r mac c).2 m =
        EspIdf.esp_now_is_peer_exist r m
  del_peer : ∀ (r : ρ) mac, EspIdf.esp_now_is_peer_exist r mac = true →
    (EspIdf.esp_now_del_peer r mac).1 = true ∧ ∀ m,
      EspIdf.esp_now_is_peer_exist (EspIdf.esp_now_del_peer r mac).2 m = true ↔
        m ≠ mac ∧ EspIdf.esp_now_is_peer_exist r m = true
  send : ∀ (r : ρ) dst data m,
    EspIdf.esp_now_is_peer_exist (EspIdf.esp_now_send r dst data).2 m =
      EspIdf.esp_now_is_peer_exist r m

section Laws
variable {ρ : Type} [EspIdf ρ]
open EspIdf

namespace EspNowTransport

theorem hasPeer_initialized {t : EspNowTransport ρ} (ht : t.initialized = true)
    (m : MacAddress) : t.hasPeer m = esp_now_is_peer_exist t.idf m := by
  simp [hasPeer, ht]

theorem hasPeer_result {t : EspNowTransport ρ} (ht : t.initialized = true) (r : Bool × ρ)
    (m : MacAddress) : (t.result r).2.hasPeer m = esp_now_is_peer_exist r.2 m := by
  have hresult : (t.result r).2.initialized = true := ht
  exact hasPeer_initialized hresult m

variable [EspIdfPeers ρ]

theorem addPeer_spec {t : EspNowTransport ρ} (ht : t.initialized = true) (mac : MacAddress)
    (c : UInt8) : (t.addPeer mac c).1 = .OK ∧ (t.addPeer mac c).2.initialized = true ∧
      ∀ m, (t.addPeer mac c).2.hasPeer m = true ↔ m = mac ∨ t.hasPeer m = true := by
  have hnot : ¬ (!t.initialized) = true := by simp [ht]
  rw [addPeer, if_neg hnot]
  by_cases hexists : esp_now_is_peer_exist t.idf mac = true
  · have hold : ∀ m, t.hasPeer m = true ↔ m = mac ∨ t.hasPeer m = true := by
      intro m
      refine ⟨Or.inr, ?_⟩
      rintro (rfl | h)
      · rw [hasPeer_initialized ht, hexists]
      · exact h
    rw [if_pos hexists]
    split
    · exact ⟨rfl, ht, hold⟩
    · obtain ⟨hok, hpeers⟩ := EspIdfPeers.mod_peer t.idf mac c hexists
      refine ⟨if_pos hok, ht, ?_⟩
      intro m
      rw [← hold m, hasPeer_result ht, hpeers m, hasPeer_initialized ht]
  · obtain ⟨hok, hpeers⟩ := EspIdfPeers.add_peer t.idf mac c (by simpa using hexists)
    rw [if_neg hexists]
    refine ⟨if_pos hok, ht, ?_⟩
    intro m
    rw [hasPeer_result ht, hpeers m, hasPeer_initialized ht]

theorem removePeer_spec {t : EspNowTransport ρ} (ht : t.initialized = true)
    (mac : MacAddress) : (t.removePeer mac).1 = .OK ∧ (t.removePeer mac).2.initialized = true ∧
      ∀ m, (t.removePeer mac).2.hasPeer m = true ↔ m ≠ mac ∧ t.hasPeer m = true := by
  have hnot : ¬ (!t.initialized) = true := by simp [ht]
  rw [removePeer, if_neg hnot]
  by_cases hexists : esp_now_is_peer_exist t.idf mac = true
  · obtain ⟨hok, hpeers⟩ := EspIdfPeers.del_peer t.idf mac hexists
    rw [if_neg (by simp [hexists])]
    refine ⟨if_pos hok, ht, ?_⟩
    intro m
    rw [hasPeer_result ht, hpeers m, hasPeer_initialized ht]
  · rw [if_pos (by simpa using hexists)]
    refine ⟨rfl, ht, fun m => ⟨fun h => ⟨?_, h⟩, fun h => h.2⟩⟩
    rintro rfl
    exact hexists ((hasPeer_initialized ht m).symm.trans h)

theorem send_spec {t : EspNowTransport ρ} (ht : t.initialized = true) (dst : MacAddress)
    (data : List UInt8) : (t.send dst data).2.initialized = true ∧
      ∀ m, (t.send dst data).2.hasPeer m = t.hasPeer m := by
  have hnot : ¬ (!t.initialized) = true := by simp [ht]
  rw [send, if_neg hnot]
  split
  · exact ⟨ht, fun _ => rfl⟩
  · refine ⟨ht, ?_⟩
    intro m
    rw [hasPeer_result ht, EspIdfPeers.send t.idf dst data m, hasPeer_initialized ht]

theorem maintainsPeers : MaintainsPeers fun t : EspNowTransport ρ => t.initialized = true where
  addPeer ht mac c := addPeer_spec ht mac c
  removePeer ht mac := removePeer_spec ht mac
  send ht dst data := send_spec ht dst data

end EspNowTransport
end Laws

theorem simRadio_exists (r : SimRadio) (m : MacAddress) :
    EspIdf.esp_now_is_peer_exist r m = true ↔ ∃ c, (m, c) ∈ r.peers := by
  change (r.peers.any fun p => p.1 == m) = true ↔ _
  simp

instance : EspIdfPeers SimRadio where
  add_peer r mac c _ := by
    refine ⟨rfl, ?_⟩
    intro m
    rw [simRadio_exists, simRadio_exists]
    simp [EspIdf.esp_now_add_peer, exists_or, or_comm]
  mod_peer r mac c hexists := by
    refine ⟨rfl, ?_⟩
    intro m
    rw [Bool.eq_iff_iff]
    by_cases hm : m = mac
    · subst hm
      obtain ⟨c', hc'⟩ := (simRadio_exists r m).mp hexists
      refine iff_of_true ((simRadio_exists _ m).mpr ⟨c, ?_⟩) hexists
      exact List.mem_map.mpr ⟨(m, c'), hc', by simp⟩
    · rw [simRadio_exists, simRadio_exists]
      refine exists_congr ?_
      intro d
      constructor
      · intro hd
        obtain ⟨p, hp, hpd⟩ := List.mem_map.mp hd
        split at hpd
        · exact absurd (congrArg Prod.fst hpd).symm hm
        · exact hpd ▸ hp
      · intro hd
        exact List.mem_map.mpr ⟨(m, d), hd, by simp [hm]⟩
  del_peer r mac _ := by
    refine ⟨rfl, ?_⟩
    intro m
    rw [simRadio_exists, simRadio_exists]
    simp [EspIdf.esp_now_del_peer, and_comm]
  send _ _ _ _ := rfl

end UngulaNet.Comm
