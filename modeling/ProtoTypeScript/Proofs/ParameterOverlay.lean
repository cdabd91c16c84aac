import ProtoTypeScript.Proofs.ConfigSettings

/-!
# Parameters one after the other

Two parameters with a comma between them are read as the tokens of the first, then those of the
second. The first that is refused decides; if both are accepted, the second is laid over the first.

* `Config.ofParameter_append_of_error`, `Config.ofParameter_append_of_ok` and
  `Config.ofParameter_append_eq_ok`: how the two are read together;
* `Config.setting_eq_of_last`: a setting is made by the last token with its key, so
  `Config.ofParameter_perm` may exchange tokens with different keys;
* `parameters_overlay` is all of it.
-/

namespace ProtoTypeScript

open Outcome Setting

/-! ### Tokens that are not there -/

namespace Setting

/-- The parameter has a token with the key. -/
def Sets (parameter : String) (k : Key) : Prop :=
  ∃ token ∈ tokens parameter, tokenKey token = k.name

instance (parameter : String) (k : Key) : Decidable (Sets parameter k) :=
  inferInstanceAs (Decidable (∃ token ∈ tokens parameter, _))

theorem filter_tokenKey_eq_nil {ts : List (List Char)} {k : Key}
    (h : ∀ token ∈ ts, tokenKey token ≠ k.name) : ts.filter (tokenKey · = k.name) = [] := by
  rw [List.filter_eq_nil_iff]
  intro token htoken
  simpa using h token htoken

theorem ofTokens_ne_nil {ts : List (List Char)} (hne : ts ≠ [])
    (hall : ∀ token ∈ ts, ∃ s, ofToken token = .ok s) : ofTokens ts ≠ [] := by
  obtain ⟨token, rest, rfl⟩ := List.exists_cons_of_ne_nil hne
  obtain ⟨s, hs⟩ := hall token List.mem_cons_self
  have hfirst : ofTokens (token :: rest) = ofTokens [token] ++ ofTokens rest :=
    ofTokens_append [token] rest
  rw [hfirst, ofTokens_singleton hs]
  simp

end Setting

/-! ### Two parameters -/

namespace Config

variable {a b : String} {c d : Config}

theorem ofParameter_congr (h : tokens a = tokens b) : ofParameter a = ofParameter b := by
  rw [ofParameter, ofParameter, h]

/-- A parameter that is refused stays so, whatever is written behind it. -/
theorem ofParameter_append_of_error {e : Error} (h : ofParameter a = .error e) (b : String) :
    ofParameter (a ++ "," ++ b) = .error e := by
  rw [ofParameter_eq_error_iff, tokens_append]
  exact firstFailure_append_iff.2 (.inl (ofParameter_eq_error_iff.1 h))

theorem ofParameter_append_of_ok {e : Error} (ha : ofParameter a = .ok c)
    (hb : ofParameter b = .error e) : ofParameter (a ++ "," ++ b) = .error e := by
  rw [ofParameter_eq_error_iff, tokens_append]
  exact firstFailure_append_iff.2
    (.inr ⟨(ofParameter_eq_ok_iff.1 ha).1, ofParameter_eq_error_iff.1 hb⟩)

/-- The second parameter decides on the keys that it has a token for. -/
theorem ofParameter_append_eq_ok (ha : ofParameter a = .ok c) (hb : ofParameter b = .ok d) :
    ∃ both, ofParameter (a ++ "," ++ b) = .ok both ∧
      ∀ k, both.setting k = if Sets b k then d.setting k else c.setting k := by
  obtain ⟨halla, -⟩ := ofParameter_eq_ok_iff.1 ha
  obtain ⟨hallb, -⟩ := ofParameter_eq_ok_iff.1 hb
  have hall : ∀ token ∈ tokens (a ++ "," ++ b), ∃ s, ofToken token = .ok s := by
    intro token htoken
    rw [tokens_append] at htoken
    exact (List.mem_append.1 htoken).elim (halla token) (hallb token)
  have hboth := ofParameter_eq_ok_iff.2 ⟨hall, rfl⟩
  refine ⟨_, hboth, fun k => ?_⟩
  rw [setting_ofParameter hboth, tokens_append, List.filter_append, ofTokens_append,
    List.getLast?_append, setting_ofParameter ha, setting_ofParameter hb]
  -- the last setting for a key counts, and those of the second parameter stand behind
  by_cases hk : Sets b k
  · obtain ⟨token, htoken, hkey⟩ := hk
    have hne : (tokens b).filter (tokenKey · = k.name) ≠ [] :=
      List.ne_nil_of_mem (List.mem_filter.2 ⟨htoken, by simpa using hkey⟩)
    have hsome := ofTokens_ne_nil hne fun u hu => hallb u (List.mem_of_mem_filter hu)
    rw [if_pos ⟨token, htoken, hkey⟩, Option.or_of_isSome (by simpa using hsome)]
  · have hnil := filter_tokenKey_eq_nil fun token htoken hkey => hk ⟨token, htoken, hkey⟩
    rw [if_neg hk, hnil]
    rfl

/-- The last token with a key is the one that counts. -/
theorem setting_eq_of_last (h : ofParameter a = .ok c) {before after : List (List Char)}
    {token : List Char} {k : Key} (htokens : tokens a = before ++ token :: after)
    (hkey : tokenKey token = k.name) (hafter : ∀ u ∈ after, tokenKey u ≠ k.name) :
    ofToken token = .ok (c.setting k) := by
  obtain ⟨s, hs⟩ := (ofParameter_eq_ok_iff.1 h).1 token (by simp [htokens])
  have hfilter : (tokens a).filter (tokenKey · = k.name) =
      before.filter (tokenKey · = k.name) ++ [token] := by
    rw [htokens, List.filter_append, List.filter_cons_of_pos (by simpa using hkey),
      filter_tokenKey_eq_nil hafter]
  rw [setting_ofParameter h, hfilter, ofTokens_append, ofTokens_singleton hs,
    List.getLast?_concat, Option.getD_some, hs]

/-- Tokens may change places if those of one key keep their order. -/
theorem ofParameter_perm (h : ofParameter a = .ok c) (hperm : (tokens a).Perm (tokens b))
    (hkeys : ∀ k : Key, (tokens a).filter (tokenKey · = k.name) =
      (tokens b).filter (tokenKey · = k.name)) : ofParameter b = .ok c := by
  obtain ⟨hall, -⟩ := ofParameter_eq_ok_iff.1 h
  have hb := ofParameter_eq_ok_iff.2 ⟨fun token htoken => hall token (hperm.mem_iff.2 htoken), rfl⟩
  rw [hb]
  congr 1
  apply eq_of_setting
  intro k
  rw [setting_ofParameter hb, setting_ofParameter h, hkeys]

end Config

/-- **Parameters overlay.** Two parameters with a comma between them fail as the first one does, and
else as the second one does; if neither fails, each setting is that of the second where this one
has a token with the key, and that of the first elsewhere. So the last token with a key wins, tokens
with different keys may change places, and white space between commas does not count. -/
theorem parameters_overlay :
    (∀ a b e, Config.ofParameter a = .error e → Config.ofParameter (a ++ "," ++ b) = .error e) ∧
    (∀ a b c e, Config.ofParameter a = .ok c → Config.ofParameter b = .error e →
      Config.ofParameter (a ++ "," ++ b) = .error e) ∧
    (∀ a b c d, Config.ofParameter a = .ok c → Config.ofParameter b = .ok d →
      ∃ both, Config.ofParameter (a ++ "," ++ b) = .ok both ∧
        ∀ k, both.setting k = if Sets b k then d.setting k else c.setting k) ∧
    (∀ a c, Config.ofParameter a = .ok c → ∀ before token after, ∀ k : Key,
      tokens a = before ++ token :: after → tokenKey token = k.name →
        (∀ u ∈ after, tokenKey u ≠ k.name) → ofToken token = .ok (c.setting k)) ∧
    (∀ a b c, Config.ofParameter a = .ok c → (tokens a).Perm (tokens b) →
      (∀ k : Key, (tokens a).filter (tokenKey · = k.name) =
        (tokens b).filter (tokenKey · = k.name)) → Config.ofParameter b = .ok c) ∧
    ∀ a b blanks : String, Text.AllBlank blanks.toList →
      Config.ofParameter (a ++ "," ++ blanks ++ "," ++ b) = Config.ofParameter (a ++ "," ++ b) ∧
      Config.ofParameter (blanks ++ "," ++ a) = Config.ofParameter a ∧
      Config.ofParameter (a ++ "," ++ blanks) = Config.ofParameter a := by
  refine ⟨fun a b e ha => ?_, fun a b c e ha hb => ?_, fun a b c d ha hb => ?_,
    fun a c ha before token after k htokens hkey hafter => ?_, fun a b c ha hperm hkeys => ?_,
    fun a b blanks hblanks => ?_⟩
  · exact Config.ofParameter_append_of_error ha b
  · exact Config.ofParameter_append_of_ok ha hb
  · exact Config.ofParameter_append_eq_ok ha hb
  · exact Config.setting_eq_of_last ha htokens hkey hafter
  · exact Config.ofParameter_perm ha hperm hkeys
  · have hnone := tokens_of_blank hblanks
    refine ⟨Config.ofParameter_congr ?_, Config.ofParameter_congr ?_, Config.ofParameter_congr ?_⟩
    · rw [tokens_append, tokens_append, tokens_append, hnone, List.append_nil]
    · rw [tokens_append, hnone, List.nil_append]
    · rw [tokens_append, hnone, List.append_nil]

theorem parameters_overlay_fjord :
    Config.ofParameter ("no_grpc, tide" ++ "," ++ "target=web") = .error (.unknownOption "tide") ∧
    Config.ofParameter ("no_grpc" ++ "," ++ "target=tide") =
      .error (.invalidOption "target" "tide") ∧
    (∃ both, Config.ofParameter ("no_grpc,target=web" ++ "," ++ " no_grpc = false") = .ok both ∧
      both.setting .noGrpc = .noGrpc false ∧ both.setting .target = .target .web) ∧
    ofToken "no_grpc=false".toList = .ok (.noGrpc false) ∧
    Config.ofParameter "target=web,no_grpc" =
      .ok { Config.default with target := .web, noGrpc := true } ∧
    Config.ofParameter ("no_grpc" ++ "," ++ " \t" ++ "," ++ "target=web") =
      Config.ofParameter ("no_grpc" ++ "," ++ "target=web") := by
  obtain ⟨hfirst, hsecond, hboth, hlast, hperm, hblank⟩ := parameters_overlay
  have hgrpc : Config.ofParameter "no_grpc" = .ok { Config.default with noGrpc := true } := by
    decide +kernel
  have hweb : Config.ofParameter "no_grpc,target=web" =
      .ok { Config.default with target := .web, noGrpc := true } := by decide +kernel
  have hkept : Config.ofParameter " no_grpc = false" = .ok .default := by decide +kernel
  have hsets : Sets " no_grpc = false" .noGrpc ∧ ¬ Sets " no_grpc = false" .target := by
    decide +kernel
  refine ⟨hfirst _ _ _ (by decide +kernel), hsecond _ _ _ _ hgrpc (by decide +kernel), ?_, ?_, ?_,
    ?_⟩
  · obtain ⟨both, hok, hsetting⟩ := hboth _ _ _ _ hweb hkept
    refine ⟨both, hok, ?_, ?_⟩
    · rw [hsetting, if_pos hsets.1]
      rfl
    · rw [hsetting, if_neg hsets.2]
      rfl
  · have hok : Config.ofParameter "no_grpc,json_names, no_grpc=false" =
        .ok { Config.default with jsonNames := true } := by decide +kernel
    exact hlast _ _ hok ["no_grpc".toList, "json_names".toList] _ [] .noGrpc (by decide +kernel)
      (by decide +kernel) (by simp)
  · refine hperm _ _ _ hweb (by decide +kernel) fun k => ?_
    cases k <;> decide +kernel
  · exact (hblank _ _ " \t" (by decide)).1

end ProtoTypeScript
