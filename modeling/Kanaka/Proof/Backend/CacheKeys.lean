import Kanaka.Backend.HttpCacheInterceptor

/-! # Requests with the same cache key -/

namespace Kanaka.Backend.HttpCacheInterceptor
open Json

theorem append_last {c : Char} {first first' last last' : List Char} (once : c ∉ last)
    (once' : c ∉ last') (same : first ++ c :: last = first' ++ c :: last') :
    first = first' ∧ last = last' := by
  rcases append_cons_cases same with split | ⟨left, rfl⟩ | ⟨left, rfl⟩
  · exact split
  · exact absurd (by simp) once
  · exact absurd (by simp) once'

section Keys
variable {context : Context} {first second : Request}

theorem toList_hashed (request : Request) : (hashed context request).toList =
    (baseKey context).toList ++ ':' :: ((urlPath request).toList ++ ':' ::
      (queryParams request).toList ++ ':' :: (userId request).toList) := by
  simp [hashed]

theorem bracketed_queryParams (request : Request) : Bracketed (queryParams request).toList := by
  rw [queryParams, Value.stringify, String.toList_ofList]
  exact Value.bracketed_object _ _

/-- The key tells where the path ends: what follows it is one object, up to the last colon. -/
theorem parts_of_texts (plain : ':' ∉ (userId first).toList) (plain' : ':' ∉ (userId second).toList)
    (same : (hashed context first).toList = (hashed context second).toList) :
    (urlPath first).toList = (urlPath second).toList ∧
      (queryParams first).toList = (queryParams second).toList ∧
        (userId first).toList = (userId second).toList := by
  rw [toList_hashed, toList_hashed, List.append_cancel_left_eq, List.cons.injEq] at same
  obtain ⟨requests, users⟩ := append_last plain plain' same.2
  obtain ⟨paths, queries⟩ := (bracketed_queryParams first).separated (bracketed_queryParams second)
    (by decide) requests
  exact ⟨paths, queries, users⟩

theorem hashed_inj (plain : ':' ∉ (userId first).toList) (plain' : ':' ∉ (userId second).toList)
    (same : hashed context first = hashed context second) :
    urlPath first = urlPath second ∧ queryParams first = queryParams second ∧
      userId first = userId second := by
  have parts := parts_of_texts plain plain' (congrArg String.toList same)
  simpa only [String.toList_inj] using parts

/-- A response from the cache was kept for a request with the same path, query and user. -/
theorem intercept_inj {sha256 : String → String} {key : String} (injective : sha256.Injective)
    (plain : ':' ∉ (userId first).toList) (plain' : ':' ∉ (userId second).toList)
    (kept : intercept sha256 context first = some key)
    (read : intercept sha256 context second = some key) :
    urlPath first = urlPath second ∧ queryParams first = queryParams second ∧
      userId first = userId second := by
  have same : generateCacheKey sha256 context first = generateCacheKey sha256 context second := by
    unfold intercept at kept read
    split at kept
    · cases kept
    · split at read
      · cases read
      · exact Option.some.inj (kept.trans read.symm)
  have parts := parts_of_texts plain plain' (congrArg String.toList (injective same))
  simpa only [String.toList_inj] using parts

end Keys

/-- A path with a colon, told as `path` or as `url`, and a query. -/
def pageOfPool (path url : Option String) (user : Option UserId) : Request :=
  ⟨"GET", path, url, some [("page", .string "2:3")], user⟩

theorem hashed_inj_url : urlPath (pageOfPool (some "/pools/a:b") none none) = "/pools/a:b" ∧
    queryParams (pageOfPool (some "/pools/a:b") none none) = "\x7b\"page\":\"2:3\"\x7d" ∧
      userId (pageOfPool (some "/pools/a:b") none none) = "anonymous" :=
  @hashed_inj ⟨none, "PoolsController", "list", false⟩ (pageOfPool (some "/pools/a:b") none none)
    (pageOfPool none (some "/pools/a:b") (some (.text "anonymous"))) (by decide) (by decide) rfl

end Kanaka.Backend.HttpCacheInterceptor
