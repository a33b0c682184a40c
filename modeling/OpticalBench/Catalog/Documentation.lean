import OpticalBench.Catalog.Element

/-!
# Reference documentation

The sections that are shown next to an element: a heading, a text, and a formula or signature where
there is one.
-/

namespace OpticalBench

/-- One section of an element's documentation. -/
structure DocumentationSection where
  title : String
  content : String
  formula : Option String
  deriving DecidableEq, Inhabited, Repr

/-- The documentation of an element. -/
def Element.documentation : Element → List DocumentationSection
  | .laser => [
      { title := "Mathematical Representation"
        content := "A coherent state |α⟩ is an eigenstate of the annihilation operator â with " ++
          "eigenvalue α."
        formula := some "|α⟩ = exp(-|α|²/2) Σₙ αⁿ/√(n!) |n⟩" },
      { title := "In Strawberry Fields"
        content := "Coherent(α) creates a coherent state with complex displacement α."
        formula := some "Coherent(r, φ) ⇒ α = r·exp(iφ)" },
      { title := "In Perceval"
        content := "Perceval has no direct equivalent to a laser; single photon sources are the " ++
          "basic inputs."
        formula := some "pcvl.Source(emission_probability=1)" }]
  | .beamSplitter => [
      { title := "Mathematical Representation"
        content := "A beam splitter couples two optical modes with a unitary transformation."
        formula := some "U_BS(θ, φ) = exp(θ(e^\x7biφ\x7d a†b − e^\x7b−iφ\x7d a b†))" },
      { title := "In Strawberry Fields"
        content := "BSgate(θ, φ) implements a beam splitter with transmissivity angle θ and phase " ++
          "φ."
        formula := some "BSgate(θ, φ) | (q[m], q[m+1])" },
      { title := "In Perceval"
        content := "pcvl.BS(theta=θ, phi_bl=φ) implements a beam splitter with parameters θ and φ."
        formula := some "pcvl.BS(theta=θ, phi_bl=φ)" }]
  | .phaseShifter => [
      { title := "Mathematical Representation"
        content := "A phase shifter applies a phase rotation to a mode."
        formula := some "U(φ) = exp(iφ a†a)" },
      { title := "In Strawberry Fields"
        content := "Rgate(φ) implements a rotation gate with phase φ."
        formula := some "Rgate(φ) | q[m]" },
      { title := "In Perceval"
        content := "pcvl.PS(φ) implements a phase shifter with phase φ."
        formula := some "pcvl.PS(phi=φ)" }]
  | .squeezeGate => [
      { title := "Mathematical Representation"
        content := "A squeezing operator changes the uncertainty relation between conjugate " ++
          "quadratures."
        formula := some "S(z) = exp((z* a² − z a†²)/2)" },
      { title := "In Strawberry Fields"
        content := "Sgate(r, φ) implements a squeezing gate with squeezing parameter r and phase " ++
          "φ."
        formula := some "Sgate(r, φ) | q[m]" },
      { title := "In Perceval"
        content := "Squeezing gates are not directly supported in Perceval."
        formula := none }]
  | .displacementGate => [
      { title := "Mathematical Representation"
        content := "A displacement operator translates a state in phase space."
        formula := some "D(α) = exp(α a† − α* a)" },
      { title := "In Strawberry Fields"
        content := "Dgate(r, φ) implements a displacement gate with α = r·exp(iφ)."
        formula := some "Dgate(r, φ) | q[m]" },
      { title := "In Perceval"
        content := "Displacement gates are not directly supported in Perceval."
        formula := none }]
  | .kerrGate => [
      { title := "Mathematical Representation"
        content := "The Kerr gate applies a nonlinear phase shift proportional to the photon " ++
          "number squared."
        formula := some "K(κ) = exp(iκ n²)" },
      { title := "In Strawberry Fields"
        content := "Kgate(κ) implements a Kerr gate with Kerr parameter κ."
        formula := some "Kgate(κ) | q[m]" },
      { title := "In Perceval"
        content := "Kerr gates are not directly supported in Perceval."
        formula := none }]
  | .measure => [
      { title := "Mathematical Representation"
        content := "Photon number measurement projects the state onto Fock states."
        formula := some "Πₙ = |n⟩⟨n|" },
      { title := "In Strawberry Fields"
        content := "MeasureFock() measures the photon number in the Fock basis."
        formula := some "MeasureFock() | q[m]" },
      { title := "In Perceval"
        content := "Measurement is implicit in Perceval: the simulator computes probabilities for " ++
          "all possible outcomes."
        formula := some "pcvl.Detector.pnr()" }]
  | .halfWavePlate => [
      { title := "Description"
        content := "A half-wave plate rotates the polarization of light by twice the angle of the " ++
          "plate's axis."
        formula := none },
      { title := "In Perceval"
        content := "pcvl.HWP(θ) implements a half-wave plate with rotation angle θ."
        formula := some "pcvl.HWP(θ)" }]
  | .quarterWavePlate => [
      { title := "Description"
        content := "A quarter-wave plate converts between linear and circular polarization."
        formula := none },
      { title := "In Perceval"
        content := "pcvl.QWP(θ) implements a quarter-wave plate with rotation angle θ."
        formula := some "pcvl.QWP(θ)" }]
  | .permutation => [
      { title := "Description"
        content := "A permutation circuit reorders the modes in the optical circuit."
        formula := none },
      { title := "In Perceval"
        content := "pcvl.PERM(perm_list) permutes modes according to the permutation list."
        formula := some "pcvl.PERM([1, 0])" }]
  | .polarizingBeamSplitter => [
      { title := "Description"
        content := "A polarizing beam splitter transmits one polarization while reflecting the " ++
          "orthogonal polarization."
        formula := none },
      { title := "In Perceval"
        content := "pcvl.PBS() implements a polarizing beam splitter."
        formula := some "pcvl.PBS()" }]
  | .timeDelay => [
      { title := "Description"
        content := "A time delay component applies a temporal delay to photons in a mode."
        formula := none },
      { title := "In Perceval"
        content := "pcvl.TD(delay) implements a time delay with the specified delay value."
        formula := some "pcvl.TD(delay)" }]
  | .unitary => [
      { title := "Description"
        content := "A unitary component implements an arbitrary unitary transformation on the " ++
          "optical modes."
        formula := none },
      { title := "In Perceval"
        content := "pcvl.Unitary(matrix) implements the transformation defined by the given " ++
          "matrix."
        formula := some "pcvl.Unitary(pcvl.Matrix(U))" }]

end OpticalBench
