import MakopaVerified.TaskRuntime.Broker

/-!
# Launch is default-deny

`LaunchManifestV1::validate` accepts the registered manifest and no other. Every route that its loop
passes is the one to the approval broker, and two of these name the same object, so there is one.
-/

namespace MakopaVerified.TaskRuntime

open Foundation List

/-- The route to the approval broker. -/
def brokerRoute : LaunchRoute where
  objectType := objectTypeApprovalBroker
  reserved := 0
  objectId := approvalBrokerObjectId
  objectGeneration := fixedObjectGeneration
  rights := capabilityRightSubmitApproval

/-- The routes name the same object. -/
def LaunchRoute.SameObject (a b : LaunchRoute) : Prop :=
  a.objectType = b.objectType ∧ a.objectId = b.objectId ∧ a.objectGeneration = b.objectGeneration

namespace LaunchManifest

variable {brokerGeneration : UInt64} {route : LaunchRoute} {earlier routes : List LaunchRoute}

/-- The first check of a route pins it in full. -/
theorem route_pinned_iff :
    ¬ (route.reserved ≠ 0 ∨ route.objectType ≠ objectTypeApprovalBroker
        ∨ route.objectId ≠ approvalBrokerObjectId ∨ route.objectGeneration ≠ brokerGeneration
        ∨ brokerGeneration ≠ fixedObjectGeneration
        ∨ route.rights ≠ capabilityRightSubmitApproval) ↔
      route = brokerRoute ∧ brokerGeneration = fixedObjectGeneration := by
  obtain ⟨objectType, reserved, objectId, objectGeneration, rights⟩ := route
  simp only [not_or, not_not, ne_eq, brokerRoute, LaunchRoute.mk.injEq]
  constructor
  · rintro ⟨rfl, rfl, rfl, rfl, rfl, rfl⟩
    exact ⟨⟨rfl, rfl, rfl, rfl, rfl⟩, rfl⟩
  · rintro ⟨⟨rfl, rfl, rfl, rfl, rfl⟩, rfl⟩
    exact ⟨rfl, rfl, rfl, rfl, rfl, rfl⟩

/-- The loop passes routes to the broker that name other objects than those before them. -/
theorem checkRoutes_eq_ok :
    checkRoutes brokerGeneration earlier routes = .ok () ↔
      (∀ route ∈ routes, route = brokerRoute ∧ brokerGeneration = fixedObjectGeneration) ∧
        routes.Pairwise (fun a b => ¬ a.SameObject b) ∧
        ∀ a ∈ earlier, ∀ b ∈ routes, ¬ a.SameObject b := by
  induction routes generalizing earlier with
  | nil => simp [checkRoutes]
  | cons route routes ih =>
    have hany : ¬ (earlier.any fun e => e.objectType = route.objectType ∧
        e.objectId = route.objectId ∧ e.objectGeneration = route.objectGeneration) = true ↔
        ∀ a ∈ earlier, ¬ a.SameObject route := by
      simp [LaunchRoute.SameObject]
    rw [checkRoutes, check_ite_eq_ok, check_ite_eq_ok, route_pinned_iff, hany, ih,
      forall_mem_cons, pairwise_cons]
    constructor
    · rintro ⟨hroute, hearlier, hroutes, hpairs, hboth⟩
      refine ⟨⟨hroute, hroutes⟩, ⟨hboth route (by simp), hpairs⟩, fun a ha => ?_⟩
      exact forall_mem_cons.mpr ⟨hearlier a ha, hboth a (by simp [ha])⟩
    · rintro ⟨⟨hroute, hroutes⟩, ⟨hfirst, hpairs⟩, hboth⟩
      refine ⟨hroute, fun a ha => (forall_mem_cons.mp (hboth a ha)).1, hroutes, hpairs, ?_⟩
      intro a ha
      rcases mem_append.mp ha with ha | ha
      · exact (forall_mem_cons.mp (hboth a ha)).2
      · rw [mem_singleton.mp ha]
        exact hfirst

/-- Two routes to the broker are a duplicate, so the loop passes at most one route. -/
theorem checkRoutes_nonempty (hne : routes ≠ []) :
    checkRoutes brokerGeneration [] routes = .ok () ↔
      routes = [brokerRoute] ∧ brokerGeneration = fixedObjectGeneration := by
  rw [checkRoutes_eq_ok]
  constructor
  · rintro ⟨hroutes, hpairs, -⟩
    match routes with
    | [] => exact absurd rfl hne
    | [route] =>
      obtain ⟨rfl, hgeneration⟩ := hroutes route (by simp)
      exact ⟨rfl, hgeneration⟩
    | first :: second :: rest =>
      obtain ⟨rfl, -⟩ := hroutes first (by simp)
      obtain ⟨rfl, -⟩ := hroutes second (by simp)
      exact absurd ⟨rfl, rfl, rfl⟩ ((pairwise_cons.mp hpairs).1 brokerRoute (by simp))
  · rintro ⟨rfl, hgeneration⟩
    simp [hgeneration]

/-- The loop over the routes and the check of the unused ones, for a count in its range. -/
theorem routes_accepted_iff {m : LaunchManifest} (hmax : m.routeCount.toNat ≤ manifestRouteCountMax)
    (hone : m.routeCount.toNat ≠ 0) :
    (checkRoutes brokerGeneration [] (m.routes.toList.take m.routeCount.toNat) = .ok () ∧
        ¬ ((m.routes.toList.drop m.routeCount.toNat).any (· ≠ LaunchRoute.zero)) = true) ↔
      m.routeCount = 1 ∧ m.routes = registeredLaunchManifest.routes ∧
        brokerGeneration = fixedObjectGeneration := by
  have hlength : (m.routes.toList.take m.routeCount.toNat).length = m.routeCount.toNat := by
    rw [length_take, Vector.length_toList]
    exact Nat.min_eq_left hmax
  have hne : m.routes.toList.take m.routeCount.toNat ≠ [] := by
    intro hnil
    rw [hnil] at hlength
    exact hone hlength.symm
  rw [checkRoutes_nonempty hne]
  constructor
  · rintro ⟨⟨hused, hgeneration⟩, hunused⟩
    rw [hused] at hlength
    have hcount : m.routeCount = 1 := UInt32.toNat_inj.mp hlength.symm
    refine ⟨hcount, ?_, hgeneration⟩
    have hzero : m.routes.toList.drop 1 = List.replicate 3 LaunchRoute.zero := by
      refine eq_replicate_iff.mpr ⟨by simp [manifestRouteCountMax], fun route hroute => ?_⟩
      by_contra hnonzero
      rw [hcount] at hunused
      exact hunused (any_eq_true.mpr ⟨route, hroute, decide_eq_true hnonzero⟩)
    rw [hcount] at hused
    rw [← Vector.toList_inj, ← take_append_drop 1 m.routes.toList, hzero]
    exact congrArg (· ++ _) hused
  · rintro ⟨hcount, hroutes, hgeneration⟩
    rw [hcount, hroutes]
    exact ⟨⟨rfl, hgeneration⟩, by decide⟩

/-- The check of a manifest succeeds on the registered one, for the fixed generations and with a free
slot, and on nothing else. -/
theorem validate_eq_ok_iff (m : LaunchManifest) (workloadGen brokerGeneration : UInt64)
    (availableSlots : Nat) :
    m.validate workloadGen brokerGeneration availableSlots = .ok () ↔
      m = registeredLaunchManifest ∧ workloadGen = 5 ∧ brokerGeneration = 1 ∧ 1 ≤ availableSlots := by
  unfold validate
  rw [check_ite_eq_ok, check_ite_eq_ok, check_ite_eq_ok, check_ite_eq_ok, check_ite_eq_ok,
    check_ite_eq_ok, unit_bind_eq_ok, check_ite_eq_ok]
  simp only [not_or, not_not, ne_eq, and_true]
  constructor
  · rintro ⟨⟨hschema, hsize, hreserved⟩, ⟨hid, hprincipal, himage, -⟩, ⟨htask, htarget, hworkload⟩,
      hmax, hone, hslots, hroutes⟩
    obtain ⟨hcount, hroutes, hbroker⟩ := (routes_accepted_iff (Nat.not_lt.mp hmax) hone).mp hroutes
    refine ⟨?_, hworkload, hbroker, ?_⟩
    · obtain ⟨schema, size, id, principal, task, target, image, count, reserved, routes⟩ := m
      subst hschema hsize hreserved hid hprincipal himage htask htarget hworkload hcount hroutes
      rfl
    · rw [hcount] at hslots
      exact Nat.not_lt.mp hslots
  · rintro ⟨rfl, rfl, rfl, hslots⟩
    have hroutes := (routes_accepted_iff (m := registeredLaunchManifest) (by decide) (by decide)).mpr
      ⟨rfl, rfl, rfl⟩
    exact ⟨by decide, by decide, by decide, by decide, by decide, Nat.not_lt.mpr hslots, hroutes⟩

end LaunchManifest

end MakopaVerified.TaskRuntime
