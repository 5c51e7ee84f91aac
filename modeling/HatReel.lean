import HatReel.Main
import HatReel.Settings.Session
import HatReel.Proofs.Reel.Outcome
import HatReel.Proofs.Model.History
import HatReel.Proofs.Reel.Ending
import HatReel.Proofs.Reel.Run
import HatReel.Proofs.Camera.Uses
import HatReel.Proofs.Reel.Again
import HatReel.Proofs.Reel.Unseen
import HatReel.Proofs.Reel.Healthy
import HatReel.Proofs.Settings.RoundTrip
import HatReel.Proofs.Rig.Built
import HatReel.Proofs.Rig.Leave
import HatReel.Proofs.Rig.Spares
import HatReel.Proofs.Model.Permits
import HatReel.Proofs.Camera.Permits
import HatReel.Proofs.Reel.Permits
import HatReel.Proofs.Reel.Sizes
import HatReel.Proofs.Reel.Resized
import HatReel.Proofs.Reel.Beginning
import HatReel.Proofs.Reel.Protected
import HatReel.Proofs.Command.Effective
import HatReel.Proofs.Rig.Beside
import HatReel.Proofs.Reel.Beside
import HatReel.Proofs.Command.Closing
import HatReel.Proofs.Command.Outcomes
import HatReel.Proofs.Model.Found
import HatReel.Proofs.Reel.Reach
import HatReel.Proofs.Rig.Prints
import HatReel.Proofs.Camera.Accounting
import HatReel.Proofs.Camera.Viewing
import HatReel.Proofs.Contour.Borders
import HatReel.Proofs.Contour.Corners
import HatReel.Proofs.Contour.Drawn
import HatReel.Proofs.Settings.Bounds
import HatReel.Proofs.Model.Failing
import HatReel.Proofs.Reel.Cached
import HatReel.Proofs.Command.Fetching
import HatReel.Proofs.Camera.Naming
import HatReel.Proofs.Model.Location
import HatReel.Proofs.Rig.Telling
import HatReel.Proofs.Draw.Footprint
import HatReel.Proofs.Perspective.Homography
