import Munch.Main
import Munch.Proofs.Candidates
import Munch.Proofs.StateSets
import Munch.Proofs.Boundaries
import Munch.Proofs.Narrowing
import Munch.Proofs.Positions
import Munch.Proofs.Filtering
import Munch.Proofs.Histories
import Munch.Proofs.NewtonScript.Trivia
import Munch.Proofs.Progress
import Munch.Proofs.Protocol
import Munch.Proofs.Refinement
import Munch.Proofs.Steps
import Munch.Proofs.Sweep
import Munch.Proofs.Tiling
import Munch.Session.Operation
import Munch.Proofs.Division
import Munch.Proofs.Building
import Munch.Proofs.NewtonScript.Table
import Munch.Proofs.NewtonScript.Lossless
import Munch.Proofs.Delivery
import Munch.Proofs.Recovery
import Munch.Proofs.Safety
import Munch.Proofs.Phases
import Munch.Proofs.Simulation
import Munch.Proofs.Rejection
import Munch.Proofs.Regex.Acceptance
import Munch.Proofs.Regex.Completeness
import Munch.Proofs.Regex.Preference
import Munch.Proofs.Regex.Shapes
import Munch.Proofs.NewtonScript.Forms
import Munch.Proofs.NewtonScript.Spelling
import Munch.Proofs.Decision
import Munch.Proofs.NewtonScript.Endings
import Munch.Proofs.NewtonScript.MaximalMunch
import Munch.Proofs.Munching
import Munch.Proofs.NewtonScript.Respacing
import Munch.Proofs.Places
import Munch.Proofs.Regex.FirstMatch
import Munch.Proofs.NewtonScript.Starts
import Munch.Proofs.NewtonScript.Numbers
import Munch.Proofs.NewtonScript.Words
import Munch.Proofs.NewtonScript.Scanner
import Munch.Proofs.NewtonScript.Literals
import Munch.Proofs.NewtonScript.Comments
import Munch.Proofs.Render.Json
import Munch.Proofs.Render.Xml
import Munch.Proofs.Exhaustion
import Munch.Proofs.NewtonScript.Errors
import Munch.Proofs.Discovery
import Munch.Proofs.Render.Listing
import Munch.Proofs.Restart
import Munch.Proofs.Command
import Munch.Proofs.Cutting
import Munch.Proofs.Registration
import Munch.Proofs.Policies
import Munch.Proofs.NewtonScript.States
import Munch.Proofs.Render.Documents
