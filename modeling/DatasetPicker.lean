import DatasetPicker.Main
import DatasetPicker.Proofs.App.Agenda
import DatasetPicker.Proofs.App.Dialogue
import DatasetPicker.Proofs.App.Hover
import DatasetPicker.Proofs.Run.Lifetime
import DatasetPicker.Proofs.Selector.Coherence
import DatasetPicker.Proofs.Selector.Regions
import DatasetPicker.Proofs.Json.Integers
import DatasetPicker.Proofs.Json.Strings
import DatasetPicker.Proofs.Json.Written
import DatasetPicker.Proofs.Selector.Abandonment
import DatasetPicker.Proofs.Selector.Offers
import DatasetPicker.Proofs.Json.Values
import DatasetPicker.Proofs.Backend.Stream
import DatasetPicker.Proofs.Config.Response
import DatasetPicker.Proofs.Selector.Renumber
import DatasetPicker.Proofs.App.Indifference
import DatasetPicker.Proofs.Terminal.Clip
import DatasetPicker.Proofs.Terminal.Measure
import DatasetPicker.Proofs.Header.Columns
import DatasetPicker.Proofs.Config.Colours
import DatasetPicker.Proofs.App.Typing
import DatasetPicker.Proofs.Selector.Navigation
import DatasetPicker.Proofs.App.Completion
import DatasetPicker.Proofs.Selector.Matching
import DatasetPicker.Proofs.Selector.Signs
import DatasetPicker.Proofs.Header.Ensemble
import DatasetPicker.Proofs.Header.Rows
import DatasetPicker.Proofs.Config.Revision
import DatasetPicker.Proofs.Settings.Validation
import DatasetPicker.Proofs.Settings.Overrides
import DatasetPicker.Proofs.Config.KnownFields
import DatasetPicker.Proofs.App.Timeout
import DatasetPicker.Proofs.Header.Areas
import DatasetPicker.Proofs.Header.Shades
import DatasetPicker.Proofs.Terminal.Bounds
